import BulletinPipeline.Proofs.Factory.Creation
import BulletinPipeline.Proofs.Value.Assignability

namespace BulletinPipeline

-- A fixed value is declared by the type that it shows itself.
def Slot.Inferred (slot : Slot) : Prop :=
  ∀ v t, slot = .fixed v t → t = v.type

-- A constructor or mutator of the class has a parameter of the type.
def ObjectClass.Takes {m : Type → Type} {α : Type} (o : ObjectClass m α) (t : ValueType) : Prop :=
  (∃ c ∈ o.constructors, t ∈ c.params) ∨ ∃ x ∈ o.mutators, t = x.param

variable {σ α : Type} {b : Blueprint (StateM σ) α} {f : ObjectFactory (StateM σ) α} {env : Environment}
  {raw : Entries Value} {v : Value} {t : ValueType}

-- Each argument may stand for the parameter at its position, and the value of a property for the parameter
-- of the public mutator that sets it.
def Call.Typed (b : Blueprint (StateM σ) α) (f : ObjectFactory (StateM σ) α) : Call α → Prop
  | .construct args           => List.Forall₂ Value.Fits args.values f.constructor.params
  | .set property mutator _ v => ∃ x, b.Sets property x ∧ x.name = mutator ∧ v.Fits x.param

theorem Converter.fits_of_standard {signature : Signature} {i : Nat} {w : Value}
    (ht : signature.params[i]? = some t) (hn : env.NamesTargets t)
    (h : standard.toParameter env v signature i = .ok w) : w.Fits t := by
  simp only [standard, ht] at h
  exact .of_inhabits (Conversion.inhabits_of_convert v t hn h)

-- A fixed value fits since the parameter is assignable from its type. An option is converted to the type of
-- the parameter, whatever type the slot declares.
theorem Slot.Fills.fits {slot : Slot} {i : Nat} (h : slot.Fills f env raw i (.ok v))
    (hc : f.converter = .standard) (hs : slot.Inferred) (ht : f.constructor.params[i]? = some t)
    (ha : t.assignableFrom slot.type) (hn : env.NamesTargets t) : v.Fits t := by
  cases h
  case fixed u =>
    have hu : u = v.type := hs v u rfl
    subst hu
    exact .of_assignableFrom ha
  case converted hv =>
    rw [hc] at hv
    exact Converter.fits_of_standard ht hn hv

namespace Blueprint.Resolves

theorem fits_arguments (h : b.Resolves f) (hc : b.converter = .standard)
    (hs : ∀ slot ∈ b.slots, slot.Inferred) (hn : ∀ t, b.target.Takes t → env.NamesTargets t)
    {args : List Value} (hf : Filled f env raw b.slots 0 args) :
    List.Forall₂ Value.Fits args f.constructor.params := by
  have ⟨_, hm⟩ := Constructor.accepts_iff.mp h.accepts
  have hl : f.constructor.params.length = b.slots.length := by simpa [slotTypes] using hm.length_eq
  refine List.forall₂_iff_get.mpr ⟨hf.length.trans hl.symm, fun i ha hp => ?_⟩
  have hi : i < b.slots.length := hl ▸ hp
  have hv := hf.fills i b.slots[i] args[i] (by simp [hi]) (by simp [ha])
  rw [Nat.zero_add] at hv
  apply hv.fits (h.converter.trans hc) (hs _ (List.getElem_mem hi))
  case ht => simp [hp]
  case ha => simpa [slotTypes] using hm.get hp (by simpa [slotTypes] using hi)
  case hn => exact hn _ (.inl ⟨_, h.constructor, List.getElem_mem hp⟩)

-- Induction on the options that are left. Each is converted for its mutator before the mutator is called.
theorem typed_of_applies (h : b.Resolves f) (hc : b.converter = .standard)
    (hn : ∀ t, b.target.Takes t → env.NamesTargets t) {rest : Entries Value} {object : α} {s s' : σ}
    {calls : List (Call α)} {answer : Except Error α}
    (ha : Applies b f env rest object s calls answer s') : ∀ call ∈ calls, call.Typed b f := by
  have fits {key : String} {x : Mutator (StateM σ) α} {raw v : Value} (hx : b.Sets key x)
      (hv : f.converter.toParameter env raw (f.mutatorSignature x) 0 = .ok v) : v.Fits x.param := by
    rw [h.converter, hc] at hv
    exact Converter.fits_of_standard rfl (hn _ (.inr ⟨x, hx.1, rfl⟩)) hv
  induction ha
  case done        => simp
  case unconverted => simp
  case refused hx hv _ =>
    rw [List.forall_mem_singleton]
    exact ⟨_, hx, rfl, fits hx hv⟩
  case set hx hv _ _ hi =>
    rw [List.forall_mem_cons]
    exact ⟨⟨_, hx, rfl, fits hx hv⟩, hi⟩

theorem typed_of_creates (h : b.Resolves f) (hc : b.converter = .standard)
    (hs : ∀ slot ∈ b.slots, slot.Inferred) (hn : ∀ t, b.target.Takes t → env.NamesTargets t) {s : σ}
    {out : Except Error α × σ × List (Call α)} (ho : Creates b f env raw s out) :
    ∀ call ∈ out.2.2, call.Typed b f := by
  cases ho
  case unknown    => simp
  case unfilled   => simp
  case refused ha _ =>
    rw [List.forall_mem_singleton]
    exact h.fits_arguments hc hs hn ha
  case constructed ha _ hp =>
    rw [List.forall_mem_cons]
    exact ⟨h.fits_arguments hc hs hn ha, h.typed_of_applies hc hn hp⟩

end Blueprint.Resolves

namespace ObjectFactory

-- The calls are those of a creation that is put on record, which is the same but for the record.
theorem calls_typed (h : b.resolve = .ok f) (hc : b.converter = .standard)
    (hs : ∀ slot ∈ b.slots, slot.Inferred) (hn : ∀ t, b.target.Takes t → env.NamesTargets t)
    (hr : raw.Ascending) (s : σ) :
    f.create env raw s
        = ((f.recorded.create env raw (s, [])).1, (f.recorded.create env raw (s, [])).2.1)
      ∧ ∀ call ∈ (f.recorded.create env raw (s, [])).2.2, call.Typed b f := by
  have hb := Blueprint.resolves_of_resolve h
  have ⟨out, ho⟩ := Creates.exists_creates hb hr env s
  refine ⟨f.erases_create env raw s [], ?_⟩
  rw [ho.run hb hr]
  exact hb.typed_of_creates hc hs hn ho

def retryType : ValueType :=
  .optional (.schema ⟨"Retry", "Retry"⟩)

def station : ObjectClass (StateM Nat) (List Value) where
  name         := "Station"
  constructors := [⟨[.list .any, retryType, .any], true, fun args n => (.ok args.values, n + 1)⟩]
  mutators     := [⟨"setLimits", .list .long, true, fun object v n => (.ok (v :: object), n + 1)⟩]

-- Two of the values are fixed: a list, and a wrapper that holds null.
def stationBlueprint : Blueprint (StateM Nat) (List Value) where
  target    := station
  name      := none
  converter := .standard
  slots     := [.ofValue (.list [.int 1, .null]), .option "retry" retryType, .ofValue (.present .null)]

def stationFactory : ObjectFactory (StateM Nat) (List Value) where
  name        := "Station"
  type        := "Station"
  converter   := .standard
  constructor := ⟨[.list .any, retryType, .any], true, fun args n => (.ok args.values, n + 1)⟩
  slots       := stationBlueprint.slots
  mutators    := [("limits", ⟨"setLimits", .list .long, true, fun object v n => (.ok (v :: object), n + 1)⟩)]

def stationOptions : Entries Value :=
  [("limits", .int 3), ("retry", .map [("attempts", .int 5)])]

def stationArguments : List Value :=
  [.list [.int 1, .null], .present (.config "Retry" [("attempts", .long 5)]), .present .null]

def stationCalls : List (Call (List Value)) :=
  [.construct ⟨stationArguments, stationFactory.signature⟩,
   .set "limits" "setLimits" stationArguments (.list [.long 3])]

theorem calls_typed_station :
    stationBlueprint.resolve = .ok stationFactory ∧ stationBlueprint.converter = .standard
      ∧ (∀ slot ∈ stationBlueprint.slots, slot.Inferred)
      ∧ (∀ t, station.Takes t → Materializer.jobs.NamesTargets t) ∧ stationOptions.Ascending
      ∧ (stationFactory.recorded.create Materializer.jobs stationOptions (0, [])).2.2 = stationCalls
      ∧ ∀ call ∈ stationCalls, call.Typed stationBlueprint stationFactory := by
  have h : stationBlueprint.resolve = .ok stationFactory := rfl
  have hr : stationOptions.Ascending := by
    unfold Entries.Ascending
    decide
  have hs : ∀ slot ∈ stationBlueprint.slots, slot.Inferred := by
    simp [stationBlueprint, Slot.Inferred, Slot.ofValue]
  have hn : ∀ t, station.Takes t → Materializer.jobs.NamesTargets t := by
    rintro t (⟨c, hc, ht⟩ | ⟨x, hx, rfl⟩) r hr d hd
    case inl =>
      cases List.mem_singleton.mp hc
      simp only [List.mem_cons, List.not_mem_nil, or_false] at ht
      rcases ht with rfl | rfl | rfl <;> cases hr
      cases hd
      rfl
    case inr =>
      cases List.mem_singleton.mp hx
      cases hr
  have hb := Blueprint.resolves_of_resolve h
  have hk : ∀ k ∈ Entries.keys stationOptions, stationBlueprint.Understands k :=
    (Creates.find?_eq_none_iff hb).mp rfl
  have ho : stationFactory.argument Materializer.jobs stationOptions 1 (.option "retry" retryType)
      = .ok (.present (.config "Retry" [("attempts", .long 5)])) :=
    Slot.fills_iff.mp <| .converted rfl <| Conversion.convert_of_within (n := 4) rfl
  have ha : stationFactory.argumentsFrom Materializer.jobs stationOptions 0 stationBlueprint.slots
      = .ok stationArguments := by
    simp only [ObjectFactory.argumentsFrom, stationBlueprint, Slot.ofValue, ho]
    rfl
  have hm : stationBlueprint.Sets "limits"
      ⟨"setLimits", .list .long, true, fun object v n => (.ok (v :: object), n + 1)⟩ :=
    (hb.mutators ..).mp rfl
  have hf : stationOptions.filter (·.1 ∉ stationBlueprint.optionSlots) = [("limits", .int 3)] := rfl
  have hc : Creates stationBlueprint stationFactory Materializer.jobs stationOptions 0
      (.ok (.list [.long 3] :: stationArguments), 2, stationCalls) := by
    refine .constructed hk (argumentsFrom_eq_ok_iff.mp ha) rfl ?_
    rw [hf]
    exact .set hm (Conversion.convert_of_within (n := 4) rfl) rfl .done
  have hl : (stationFactory.recorded.create Materializer.jobs stationOptions (0, [])).2.2 = stationCalls :=
    congrArg (·.2.2) (hc.run hb hr)
  exact ⟨h, rfl, hs, hn, hr, hl, hl ▸ (calls_typed h rfl hs hn hr 0).2⟩

end ObjectFactory
end BulletinPipeline
