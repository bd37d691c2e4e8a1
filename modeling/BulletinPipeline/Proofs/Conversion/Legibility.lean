import BulletinPipeline.Digest
import BulletinPipeline.Proofs.Conversion.Conformity
import BulletinPipeline.Proofs.Conversion.ReadBack
import BulletinPipeline.Proofs.Number.Numeral
import BulletinPipeline.Proofs.Settings
import BulletinPipeline.Proofs.Value.Rendering

namespace BulletinPipeline

namespace Environment

-- The names of schemas do not hold what ends a value.
def NamesOpen (env : Environment) : Prop :=
  ∀ d, env.Defines d → Value.Open d.name.toList

theorem namesOpen_of_alphanumeric {env : Environment} (h : ∀ d, env.Defines d → ∀ c ∈ d.name.toList, c.isAlphanum) :
    env.NamesOpen := by
  intro d hd c hc hm
  have hn : ∀ c ∈ Value.closing, c.isAlphanum = false := by
    simp [Value.closing]
  simpa [hn c hm] using h d hd c hc

end Environment

namespace Value

variable {env : Environment} {t : ValueType} {v w : Value} {d : Descriptor}

theorem open_null : Open null.text.toList := by
  simp [Open, closing]

theorem open_bool (b : Bool) : Open (bool b).text.toList := by
  cases b <;> simp [Open, boolText, closing]

theorem eq_minus_or_isDigit {n : Int} {c : Char} (h : c ∈ n.repr.toList) : c = '-' ∨ c.isDigit := by
  have hd (n : Nat) (hc : c ∈ n.repr.toList) : c.isDigit := by
    rw [Nat.repr_eq_ofList_toDigits, String.toList_ofList] at hc
    exact Nat.isDigit_of_mem_toDigits (by decide) (by decide) hc
  rw [Int.repr_eq_if] at h
  split at h
  · exact .inr (hd _ h)
  · rw [String.toList_append] at h
    rcases List.mem_append.mp h with h | h
    · exact .inl (by simpa using h)
    · exact .inr (hd _ h)

theorem open_repr (n : Int) : Open n.repr.toList := by
  intro c hc
  have hn : ∀ c ∈ closing, c ≠ '-' ∧ c.isDigit = false := by simp [closing]
  intro hm
  have hs := eq_minus_or_isDigit hc
  simp [hn c hm] at hs

theorem legible_bool (a b : Bool) : Legible (bool a) (bool b) :=
  legible_of_open (open_bool a) (open_bool b) (by cases a <;> cases b <;> decide)

theorem legible_int (a b : Int32) : Legible (int a) (int b) :=
  legible_of_open (open_repr a.toInt) (open_repr b.toInt) fun h =>
    congrArg int (Int32.toInt_inj.mp (Numeral.eq_of_repr h))

theorem legible_long (a b : Int64) : Legible (long a) (long b) :=
  legible_of_open (open_repr a.toInt) (open_repr b.toInt) fun h =>
    congrArg long (Int64.toInt_inj.mp (Numeral.eq_of_repr h))

theorem legible_present (h : Legible v w) : Legible (present v) (present w) :=
  legible_bracketed "Optional[" rfl rfl h (congrArg present)

theorem legible_present_absent (v : Value) : Legible (present v) absent :=
  legible_of_isPrefix "Optional[".toList (by simp [Open, closing]) (by simp) (by simp)

-- Wrappers of one kind, written around what they hold, are told apart if what they hold is.
theorem legible_wrappers {α : Type} {wrapper : Option α → Value} {held : α → Value} (word : String)
    (ht : ∀ a, (wrapper (some a)).text = word ++ (held a).text ++ "]") (hw : Open word.toList)
    (hn : ¬word.toList <+: (wrapper none).text.toList) (hi : Function.Injective held)
    (hl : ∀ a b, Legible (held a) (held b)) (a b : Option α) : Legible (wrapper a) (wrapper b) := by
  have hs (a : α) : Legible (wrapper (some a)) (wrapper none) :=
    legible_of_isPrefix word.toList hw (by simp [ht]) hn
  cases a <;> cases b
  case none.none     => exact legible_self _
  case none.some b   => exact (hs b).symm
  case some.none a   => exact hs a
  case some.some a b =>
    exact legible_bracketed word (ht a) (ht b) (hl a b) fun h => congrArg (wrapper <| some ·) (hi h)

theorem legible_optionalInt (a b : Option Int32) : Legible (optionalInt a) (optionalInt b) :=
  legible_wrappers "OptionalInt[" (fun _ => rfl) (by simp [Open, closing]) (by simp)
    (fun _ _ => int.inj) legible_int a b

theorem legible_optionalLong (a b : Option Int64) : Legible (optionalLong a) (optionalLong b) :=
  legible_wrappers "OptionalLong[" (fun _ => rfl) (by simp [Open, closing]) (by simp)
    (fun _ _ => long.inj) legible_long a b

-- The value does not begin like an end, nor like null.
def Starts (v : Value) : Prop :=
  ∃ as, (∃ c ∈ as, c ∉ null.text.toList) ∧ Open as ∧ as <+: v.text.toList

theorem Starts.opens (h : v.Starts) : v.Opens := by
  obtain ⟨as, ⟨c, hc, _⟩, ha, hp⟩ := h
  exact ⟨as, List.ne_nil_of_mem hc, ha, hp⟩

theorem Starts.legible_null (h : v.Starts) : Legible v null := by
  obtain ⟨as, ⟨c, hc, hn⟩, ha, hp⟩ := h
  exact legible_of_isPrefix as ha hp fun h => hn (h.subset hc)

theorem opens_null : null.Opens :=
  ⟨_, by simp, open_null, List.prefix_rfl⟩

theorem starts_of_head {c : Char} (h : v.text.toList.head? = some c) (hc : c ∉ closing ++ null.text.toList) :
    v.Starts := by
  rw [List.mem_append, not_or] at hc
  refine ⟨[c], ⟨c, by simp, hc.2⟩, by simpa [Open] using hc.1, ?_⟩
  obtain ⟨cs, hs⟩ := List.head?_eq_some_iff.mp h
  simp [hs]

theorem starts_of_repr {n : Int} (h : v.text = n.repr) : v.Starts := by
  have hr : n.repr ≠ "" := by
    rw [Int.repr_eq_if]
    split <;> simp
  obtain ⟨c, cs, hc⟩ := List.exists_cons_of_ne_nil (mt String.toList_eq_nil_iff.mp hr)
  refine starts_of_head (c := c) (by simp [h, hc]) fun hm => ?_
  have hn : ∀ c ∈ closing ++ null.text.toList, c ≠ '-' ∧ c.isDigit = false := by simp [closing]
  have hs := eq_minus_or_isDigit (n := n) (c := c) (by simp [hc])
  simp [hn c hm] at hs

theorem starts_of_conforms (hn : env.NamesOpen) (h : Conforms env t v) (hv : v ≠ null) : v.Starts := by
  cases h
  case null           => contradiction
  case int n          => exact starts_of_repr rfl
  case long n         => exact starts_of_repr rfl
  case bool b         =>
    cases b
    case true  => exact starts_of_head (c := 't') (by simp [boolText]) (by simp [closing])
    case false => exact starts_of_head (c := 'f') (by simp [boolText]) (by simp [closing])
  case string s       => exact starts_of_head (c := '"') (by simp [Text.quote]) (by simp [closing])
  case list           => exact starts_of_head (c := '[') (by simp [text_list]) (by simp [closing])
  case absent         => exact starts_of_head (c := 'O') (by simp) (by simp [closing])
  case present        => exact starts_of_head (c := 'O') (by simp) (by simp [closing])
  case optionalInt n  => cases n <;> exact starts_of_head (c := 'O') (by simp) (by simp [closing])
  case optionalLong n => cases n <;> exact starts_of_head (c := 'O') (by simp) (by simp [closing])
  case config r ps hd _ _ =>
    refine ⟨(env.target r).name.toList ++ ['\x7b'], ⟨'\x7b', by simp, by simp⟩, ?_, ?_⟩
    · exact List.forall_mem_append.mpr ⟨hn _ hd, by simp [closing]⟩
    · rw [text_config]
      exact List.prefix_append ..

theorem opens_of_conforms (hn : env.NamesOpen) (h : Conforms env t v) : v.Opens := by
  by_cases hv : v = null
  case pos => exact hv ▸ opens_null
  case neg => exact (starts_of_conforms hn h hv).opens

-- Null is told from any other value by its text, so that values are compared with their like.
theorem legible_of_ne_null (hn : env.NamesOpen) (hv : Conforms env t v) (hw : Conforms env t w)
    (h : v ≠ null → w ≠ null → Legible v w) : Legible v w := by
  by_cases hv₀ : v = null
  case pos =>
    subst hv₀
    by_cases hw₀ : w = null
    case pos => exact hw₀ ▸ legible_self null
    case neg => exact (starts_of_conforms hn hw hw₀).legible_null.symm
  case neg =>
    by_cases hw₀ : w = null
    case pos => exact hw₀ ▸ (starts_of_conforms hn hv hv₀).legible_null
    case neg => exact h hv₀ hw₀

theorem legible_properties {ps qs : Entries Value} (hp : Entries.keys ps = d.table.optionNames)
    (hq : Entries.keys qs = d.table.optionNames)
    (hl : ∀ p ∈ d.table.properties, ∀ v w, ps.lookup p.name = some v → qs.lookup p.name = some w → Legible v w) :
    Legible (config d.name ps) (config d.name qs) := by
  have ha : Entries.Ascending ps := by
    rw [Entries.Ascending, hp]
    exact d.ascending_optionNames
  have hk : (Entries.keys ps).Nodup := hp ▸ d.nodup_optionNames
  refine legible_config d.name ((Entries.forall₂_iff_lookup hk).mpr ⟨hq.trans hp.symm, fun e he => ?_⟩)
  have hm : e.1 ∈ d.table.optionNames := hp ▸ Entries.mem_keys_of_mem he
  obtain ⟨w, hw⟩ := Option.isSome_iff_exists.mp (Entries.lookup_isSome_iff.mpr (hq ▸ hm))
  obtain ⟨p, hm, hn⟩ := List.mem_map.mp hm
  exact ⟨w, hw, hl p hm e.2 w (hn ▸ ha.lookup_eq_some_iff.mpr he) (hn ▸ hw)⟩

-- Induction on what the first value is made of.
theorem legible_of_conforms (hn : env.NamesOpen) (hv : Conforms env t v) : ∀ w, Conforms env t w → Legible v w := by
  induction hv <;> intro w hw
  case null ht => exact legible_of_ne_null hn (.null ht) hw fun h => absurd rfl h
  case bool a =>
    refine legible_of_ne_null hn (.bool a) hw fun _ hw₀ => ?_
    cases hw
    case null   => contradiction
    case bool b => exact legible_bool a b
  case int a =>
    refine legible_of_ne_null hn (.int a) hw fun _ hw₀ => ?_
    cases hw
    case null  => contradiction
    case int b => exact legible_int a b
  case long a =>
    refine legible_of_ne_null hn (.long a) hw fun _ hw₀ => ?_
    cases hw
    case null   => contradiction
    case long b => exact legible_long a b
  case string a =>
    refine legible_of_ne_null hn (.string a) hw fun _ hw₀ => ?_
    cases hw
    case null     => contradiction
    case string b => exact legible_string a b
  case list hv hi =>
    refine legible_of_ne_null hn (.list hv) hw fun _ hw₀ => ?_
    cases hw
    case null => contradiction
    case list hw =>
      refine legible_list (fun v hm => ?_) (fun w hm => ?_) fun v hv w hm => hi v hv w (hw w hm)
      · exact opens_of_conforms hn (hv v hm)
      · exact opens_of_conforms hn (hw w hm)
  case absent =>
    cases hw
    case null ht    => contradiction
    case absent     => exact legible_self absent
    case present w _ => exact (legible_present_absent w).symm
  case present v _ _ hi =>
    cases hw
    case null ht    => contradiction
    case absent     => exact legible_present_absent v
    case present hw => exact legible_present (hi _ hw)
  case optionalInt a =>
    cases hw
    case null ht       => contradiction
    case optionalInt b => exact legible_optionalInt a b
  case optionalLong a =>
    cases hw
    case null ht        => contradiction
    case optionalLong b => exact legible_optionalLong a b
  case config hd hk hp hi =>
    refine legible_of_ne_null hn (.config hd hk hp) hw fun _ hw₀ => ?_
    cases hw
    case null => contradiction
    case config hk' hp' => exact legible_properties hk hk' fun p hm v w hv hw => hi p hm v hv w (hp' p hm w hw)

end Value

theorem toList_loop_eq (bytes : ByteArray) (i : Nat) (cs : List UInt8) :
    ByteArray.toList.loop bytes i cs = cs.reverse ++ bytes.data.toList.drop i := by
  rw [ByteArray.toList.loop]
  split
  case isTrue h =>
    rw [toList_loop_eq bytes (i + 1), List.drop_eq_getElem_cons (i := i) (by simpa using h)]
    simp [ByteArray.get!, h]
  case isFalse h => rw [List.drop_of_length_le (by simpa using h), List.append_nil]
termination_by bytes.size - i

theorem toList_injective : Function.Injective ByteArray.toList := by
  intro a b h
  simp only [ByteArray.toList, toList_loop_eq, List.reverse_nil, List.nil_append, List.drop_zero] at h
  exact ByteArray.ext (Array.toList_inj.mp h)

namespace Config

variable {β : Type} {hash : List UInt8 → β} {c d : Config}

-- The fingerprint for any digest of bytes.
def fingerprintBy (hash : List UInt8 → β) (c : Config) : β :=
  hash c.text.toUTF8.toList

theorem fingerprint_eq (c : Config) : c.fingerprint = c.fingerprintBy Digest.hex :=
  rfl

theorem fingerprintBy_eq_iff (hi : Function.Injective hash) :
    c.fingerprintBy hash = d.fingerprintBy hash ↔ c.text = d.text := by
  rw [fingerprintBy, fingerprintBy, hi.eq_iff, toList_injective.eq_iff]
  exact String.toByteArray_inj

end Config

namespace Materializer

open Value

variable {env : Environment} {m m' : Memory} {d : Descriptor} {raw raw' : Entries Value} {c c' : Config}

theorem conforms_of_materialize (u : env.NamesUnique) (hd : env.Defines d) (hs : env.Definite d)
    (hm : Reached env .standard env.Defines m) (hr : (Value.map raw).Raw)
    (hc : (materialize env .standard d raw m).1 = .ok c) :
    c.schema = d.name ∧ Entries.keys c.properties = d.table.optionNames
      ∧ ∀ p ∈ d.table.properties, ∀ v, c.properties.lookup p.name = some v → v.Conforms env p.accessor.returns := by
  have hk := hm.keeps u.inherits_valid
  have hv : env.Valid d := (exists_validate_ok_iff u.inherits_valid hk hd).mp (exists_validate_of_materialize hc)
  rw [(u.answers_materialize hv hd .standard raw m hk).1] at hc
  cases hr
  case map hr =>
    exact Conversion.conforms_properties u hv hs (fun e he => Conversion.sound_of_raw u e.2 (hr e he)) hc

theorem eq_of_materialize (u : env.NamesUnique) (hn : env.NamesOpen) (hd : env.Defines d) (hs : env.Definite d)
    (hm : Reached env .standard env.Defines m) (hm' : Reached env .standard env.Defines m')
    (hr : (Value.map raw).Raw) (hr' : (Value.map raw').Raw)
    (hc : (materialize env .standard d raw m).1 = .ok c) (hc' : (materialize env .standard d raw' m').1 = .ok c')
    (ht : c.text = c'.text) : c = c' := by
  obtain ⟨hs₁, hk, hp⟩ := conforms_of_materialize u hd hs hm hr hc
  obtain ⟨hs₂, hk', hp'⟩ := conforms_of_materialize u hd hs hm' hr' hc'
  have hl : Legible c.toValue c'.toValue := by
    rw [Config.toValue, Config.toValue, hs₁, hs₂]
    exact legible_properties hk hk' fun p hm v w hv hw => legible_of_conforms hn (hp p hm v hv) w (hp' p hm w hw)
  exact (Config.eq_of_toValue_eq (hl.eq ht)).symm

-- Each configuration may come from a materializer with a history of its own.
theorem rendering_faithful (u : env.NamesUnique) (hn : env.NamesOpen) (hd : env.Defines d) (hs : env.Definite d)
    (hm : Reached env .standard env.Defines m) (hm' : Reached env .standard env.Defines m')
    (hr : (Value.map raw).Raw) (hr' : (Value.map raw').Raw)
    (hc : (materialize env .standard d raw m).1 = .ok c) (hc' : (materialize env .standard d raw' m').1 = .ok c') :
    (c.text = c'.text → c = c') ∧ ∀ (β : Type) (hash : List UInt8 → β), Function.Injective hash →
      c.fingerprintBy hash = c'.fingerprintBy hash → c = c' := by
  have he := eq_of_materialize u hn hd hs hm hm' hr hr' hc hc'
  exact ⟨he, fun β hash hi hf => he ((Config.fingerprintBy_eq_iff hi).mp hf)⟩

end Materializer

namespace PipelineSettings

theorem eq_or_eq_of_contains {e : Descriptor} (h : environment.Contains descriptor e) :
    e = descriptor ∨ e = RetrySettings.descriptor := by
  induction h
  case refl => exact .inl rfl
  case tail d e _ he hi =>
    obtain ⟨a, ha, r, hr, rfl⟩ := he
    have hs : ∀ a ∈ descriptor.accessors, ∀ r ∈ a.returns.schemaInside?, r = ⟨"RetrySettings", "RetrySettings"⟩ := by
      decide
    have ht : ∀ a ∈ RetrySettings.descriptor.accessors, a.returns.schemaInside? = none := by
      decide
    rcases hi with rfl | rfl
    · exact .inr (hs a ha r hr ▸ rfl)
    · exact nomatch (ht a ha).symm.trans hr

theorem definite : environment.Definite descriptor := by
  intro e he
  rcases eq_or_eq_of_contains he with rfl | rfl <;> decide

theorem namesOpen : environment.NamesOpen := by
  have hn : ∀ d ∈ environment.descriptors.map Prod.snd, ∀ c ∈ d.name.toList, c.isAlphanum := by
    simp [environment, descriptor, RetrySettings.descriptor, Descriptor.schema]
  exact Environment.namesOpen_of_alphanumeric hn

end PipelineSettings

namespace Materializer

open PipelineSettings

def directories (output : String) : Entries Value :=
  [("inputDirectory", .string "in"), ("outputDirectory", .string output)]

theorem raw_directories (output : String) : (Value.map (directories output)).Raw :=
  .map (List.forall_mem_cons.mpr ⟨.string _, List.forall_mem_singleton.mpr (.string _)⟩)

theorem rendering_faithful_directories :
    (Value.map (directories "a")).Raw ∧ (Value.map (directories "b")).Raw
      ∧ environment.NamesUnique ∧ environment.NamesOpen ∧ environment.Definite descriptor
      ∧ ((ofDirectories "in" "a").text = (ofDirectories "in" "b").text →
        ofDirectories "in" "a" = ofDirectories "in" "b")
      ∧ ((ofDirectories "in" "a").fingerprintBy id = (ofDirectories "in" "b").fingerprintBy id →
        ofDirectories "in" "a" = ofDirectories "in" "b") := by
  have hd : environment.Defines descriptor := List.mem_cons_self
  have hc (output : String) : (materialize environment .standard descriptor (directories output) .fresh).1
      = .ok (ofDirectories "in" output) := materialize_directories "in" output
  obtain ⟨ht, hf⟩ := rendering_faithful namesUnique namesOpen hd definite .fresh .fresh (raw_directories "a")
    (raw_directories "b") (hc "a") (hc "b")
  exact ⟨raw_directories "a", raw_directories "b", namesUnique, namesOpen, definite, ht,
    hf (List UInt8) id Function.injective_id⟩

end Materializer
end BulletinPipeline
