import BulletinPipeline.Proofs.Schema.History

namespace BulletinPipeline

open Materializing

namespace Environment

variable {env : Environment} {convert : Value → Signature → Except ConversionError Value}
  {d : Descriptor} {m : Memory} {r : SchemaRef} {s : Schema} {path : List String}

-- What a raw map gives for a descriptor in a memory that keeps nothing.
def configure (env : Environment) (convert : Value → Signature → Except ConversionError Value)
    (d : Descriptor) (raw : Entries Value) : Except Error Config :=
  (d.table.fill env convert raw [] .none).1

theorem Valid.edge_of_nested? (h : env.Valid d) {p : Property} (hp : p ∈ d.table.properties)
    (hr : p.nested? = some r) : env.Edge d (env.target r) :=
  have hm : r ∈ d.table.references := List.mem_filterMap.mpr ⟨p, hp, hr⟩
  ⟨r, h.self_legal.mem_table_references.mp hm, rfl⟩

namespace NamesUnique

-- The entry of memory that is found has the name, so that it is about the same descriptor.
theorem eq_table_of_validate (u : env.NamesUnique) (hm : m.Keeps env.Defines env.Valid)
    (hd : env.Defines d) (h : (validate env d path m).1 = .ok s) : s = d.table := by
  obtain ⟨e, rfl, he⟩ := exists_table_of_validate hm h
  cases he
  case inl he => exact congrArg Descriptor.table he
  case inr he =>
    have ⟨hr, he, _⟩ := he
    exact congrArg Descriptor.table (u e d he hd (Descriptor.name_eq_of_same hr))

theorem validate_eq_ok (u : env.NamesUnique) (hv : env.Valid d) (hd : env.Defines d)
    (hm : m.Keeps env.Defines env.Valid) : (validate env d [] m).1 = .ok d.table := by
  have ⟨s, hs⟩ := hv.validate [] m (by simp)
  exact u.eq_table_of_validate hm hd hs ▸ hs

theorem answers_validate (u : env.NamesUnique) (hv : env.Valid d) (hd : env.Defines d) :
    Answers (Memory.Keeps env.Defines env.Valid) (Materializer.validate env d) (.ok d.table) := by
  refine (u.inherits_valid.preserves_validate hd).answers fun m hm => ?_
  rw [Materializer.validate_fst, u.validate_eq_ok hv hd hm]
  rfl

theorem answers_resolve (u : env.NamesUnique) (hv : env.Valid (env.target r)) :
    Answers (Memory.Keeps env.Defines env.Valid) (Schema.resolve env r)
      (.ok (env.target r).table) := by
  refine (u.inherits_valid.preserves_resolve r).answers fun m hm => ?_
  have hr := resolve?_of_legal_target hv.self_legal
  have hs := u.validate_eq_ok hv (defines_of_resolve? hr) hm
  simp only [Schema.resolve, hr]
  split <;> simp_all

theorem valid_of_resolve (u : env.NamesUnique) (hm : m.Keeps env.Defines env.Valid)
    (h : (Schema.resolve env r m).1 = .ok s) : env.Valid (env.target r) := by
  unfold Schema.resolve at h
  split at h
  case h_1 => contradiction
  case h_2 d hd =>
    rw [target_of_resolve? hd]
    refine (u.inherits_valid.validate (defines_of_resolve? hd) [] hm).2 s ?_
    split at h <;> simp_all

-- Induction on the raw map. A nested map is built inside the schemas of the path, but a valid descriptor
-- reaches none of them, so that it gives what it gives by itself.
theorem answers_fill_assemble (u : env.NamesUnique) {d : Descriptor} (hv : env.Valid d)
    (raw : Entries Value) (path : List String) (hp : ∀ e, env.Reaches d e → e.name ∉ path)
    {inner : SchemaRef → Entries Value → Except Error Config}
    (hi : ∀ r, env.Edge d (env.target r) → inner r = env.configure convert (env.target r)) :
    Answers (Memory.Keeps env.Defines env.Valid) (d.table.fill env convert raw path)
      (d.table.assemble convert inner raw) := by
  have hn : d.table.name ∉ path := hp d .refl
  rw [Schema.fill_eq, if_neg hn]
  refine Schema.answers_assemble fun p hm r nested hr hl => ?_
  have := Schema.sizeOf_lt_of_lookup_map hl
  have he := hv.edge_of_nested? hm hr
  have hc := fun path hp =>
    answers_fill_assemble u (hv.of_edge he) nested path hp fun _ _ => rfl
  have ha := (hc [] (by simp) .none Memory.keeps_none).1
  rw [hi r he]
  refine (u.answers_resolve (hv.of_edge he)).bind
    (g := fun _ => env.configure convert (env.target r) nested) fun t ht => ?_
  cases ht
  rw [configure, ha]
  refine hc _ fun e hr hm => ?_
  cases List.mem_append.mp hm
  case inl hm => exact hp e (.head he hr) hm
  case inr hm => exact hv.name_ne he hr (List.mem_singleton.mp hm)
termination_by sizeOf raw

theorem configure_eq (u : env.NamesUnique) (hv : env.Valid d) (raw : Entries Value)
    {inner : SchemaRef → Entries Value → Except Error Config}
    (hi : ∀ r, env.Edge d (env.target r) → inner r = env.configure convert (env.target r)) :
    env.configure convert d raw = d.table.assemble convert inner raw :=
  (u.answers_fill_assemble hv raw [] (by simp) hi .none Memory.keeps_none).1

theorem answers_fill (u : env.NamesUnique) (hv : env.Valid d) (raw : Entries Value) :
    Answers (Memory.Keeps env.Defines env.Valid) (d.table.fill env convert raw [])
      (env.configure convert d raw) := by
  rw [u.configure_eq hv raw fun _ _ => rfl]
  exact u.answers_fill_assemble hv raw [] (by simp) fun _ _ => rfl

theorem answers_resolve_fill (u : env.NamesUnique) (hv : env.Valid (env.target r))
    (raw : Entries Value) :
    Answers (Memory.Keeps env.Defines env.Valid)
      (Schema.resolve env r >>= fun s => s.fill env convert raw [])
      (env.configure convert (env.target r) raw) := by
  refine (u.answers_resolve hv).bind
    (g := fun _ => env.configure convert (env.target r) raw) fun s hs => ?_
  cases hs
  exact u.answers_fill hv raw

theorem answers_materialize (u : env.NamesUnique) (hv : env.Valid d) (hd : env.Defines d)
    (converter : Converter) (raw : Entries Value) :
    Answers (Memory.Keeps env.Defines env.Valid) (Materializer.materialize env converter d raw)
      (env.configure (converter.toResult env) d raw) := by
  refine (u.answers_validate hv hd).bind
    (g := fun _ => env.configure (converter.toResult env) d raw) fun s hs => ?_
  cases hs
  rw [Schema.build_eq_fill]
  exact u.answers_fill hv raw

end NamesUnique
end Environment
end BulletinPipeline
