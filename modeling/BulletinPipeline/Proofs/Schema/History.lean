import BulletinPipeline.Proofs.Schema.Filling
import BulletinPipeline.Proofs.Schema.Validation
import BulletinPipeline.Schema.Materializer

namespace BulletinPipeline

namespace Environment.Inherits

open Materializing

variable {env : Environment} {D P : Descriptor → Prop} {d : Descriptor}

theorem preserves_resolve (i : env.Inherits D P) (r : SchemaRef) :
    Preserves (Memory.Keeps D P) (Schema.resolve env r) := by
  intro m hm
  unfold Schema.resolve
  split
  case h_1 => exact hm
  case h_2 d hd =>
    have h := (i.validate (i.resolved r d hd) [] hm).1
    split <;> simpa [*] using h

theorem preserves_validate (i : env.Inherits D P) (hd : D d) :
    Preserves (Memory.Keeps D P) (Materializer.validate env d) := by
  intro m hm
  have h := (i.validate hd [] hm).1
  unfold Materializer.validate
  split <;> simpa [*] using h

theorem preserves_materialize (i : env.Inherits D P) (hd : D d) (converter : Converter)
    (raw : Entries Value) :
    Preserves (Memory.Keeps D P) (Materializer.materialize env converter d raw) :=
  (i.preserves_validate hd).bind fun s => Schema.preserves_fill i.preserves_resolve s raw []

end Environment.Inherits

namespace Materializer

variable {env : Environment} {converter : Converter} {D P : Descriptor → Prop} {m : Memory}
  {d : Descriptor}

-- A memory that a sequence of calls may leave, when they are about descriptors in `D`. Each of them may
-- have ended in success or failure.
inductive Reached (env : Environment) (converter : Converter) (D : Descriptor → Prop) : Memory → Prop
  | fresh : Reached env converter D .fresh
  | isValid {m : Memory} {d : Descriptor} :
    Reached env converter D m → D d → Reached env converter D (isValid env d m).2
  | validate {m : Memory} {d : Descriptor} :
    Reached env converter D m → D d → Reached env converter D (validate env d m).2
  | materialize {m : Memory} {d : Descriptor} (raw : Entries Value) :
    Reached env converter D m → D d → Reached env converter D (materialize env converter d raw m).2

theorem Reached.keeps (h : Reached env converter D m) (i : env.Inherits D P) : m.Keeps D P := by
  induction h
  case fresh                       => exact Memory.keeps_fresh
  case isValid hd hm             => exact i.preserves_validate hd _ hm
  case validate hd hm            => exact i.preserves_validate hd _ hm
  case materialize raw _ hd hm => exact i.preserves_materialize hd _ raw _ hm

theorem validate_fst (env : Environment) (d : Descriptor) (m : Memory) :
    (validate env d m).1 = (BulletinPipeline.validate env d [] m).1.mapError .schema := by
  unfold validate
  split <;> simp [*, Except.mapError]

theorem validate_ok_iff {s : Schema} :
    (validate env d m).1 = .ok s ↔ (BulletinPipeline.validate env d [] m).1 = .ok s := by
  rw [validate_fst]
  cases (BulletinPipeline.validate env d [] m).1 <;> simp [Except.mapError]

theorem isValid_iff : (isValid env d m).1 = true ↔ ∃ s, (validate env d m).1 = .ok s := by
  change (validate env d m).1.isOk = true ↔ _
  cases (validate env d m).1 <;> simp [Except.isOk, Except.toBool]

-- In a memory of valid schemas validation is exact, if a descriptor is valid whenever all that its
-- accessors refer to is, and whenever one that reads the same is.
theorem exists_validate_ok_iff (i : env.Inherits D env.Valid) (hm : m.Keeps D env.Valid)
    (hd : D d) : (∃ s, (validate env d m).1 = .ok s) ↔ env.Valid d := by
  simp only [validate_ok_iff]
  constructor
  case mp  => exact fun ⟨s, hs⟩ => (i.validate hd [] hm).2 s hs
  case mpr => exact fun h => h.validate [] m (by simp)

end Materializer

-- Where a name denotes one descriptor, no walk from a legal descriptor to valid ones meets its name again,
-- and descriptors that read the same are the same.
theorem Environment.NamesUnique.inherits_valid {env : Environment} (u : env.NamesUnique) :
    env.Inherits env.Defines env.Valid where
  resolved _ _ := defines_of_resolve?
  edges d hd hl h := by
    refine u.valid_of_edges hd hl ?_
    rintro _ ⟨r, hr, rfl⟩
    have ⟨e, he, hv⟩ := h r hr
    exact target_of_resolve? he ▸ hv
  same d e hd he _ hv hs := u d e hd he (Descriptor.name_eq_of_same hs) ▸ hv

namespace Materializer

variable {env : Environment} {converter : Converter} {m : Memory} {d : Descriptor}

-- Nothing that calls leave in memory makes an illegal or circular descriptor a schema, or keeps a valid one
-- from being one.
theorem validate_exact (u : env.NamesUnique) (hm : Reached env converter env.Defines m)
    (hd : env.Defines d) : (∃ s, (validate env d m).1 = .ok s) ↔ env.Valid d :=
  exists_validate_ok_iff u.inherits_valid (hm.keeps u.inherits_valid) hd

def hub : Descriptor :=
  .schema "Hub" [("getLeaf", .schema ⟨"Leaf", "Leaf"⟩), ("getSpoke", .schema ⟨"Spoke", "Spoke"⟩)]

-- A hub and a spoke that refer to each other. A validation of the hub fails, but leaves the leaf in memory.
def wheel : Environment where
  descriptors :=
    [("Hub", hub), ("Leaf", .schema "Leaf" [("size", .int)]),
     ("Spoke", .schema "Spoke" [("getHub", .optional (.schema ⟨"Hub", "Hub"⟩))])]

theorem namesUnique_wheel : wheel.NamesUnique :=
  Environment.namesUnique_of_nodup (by decide)

theorem validate_exact_hub :
    wheel.NamesUnique ∧ wheel.Defines hub
      ∧ Reached wheel .standard wheel.Defines (validate wheel hub .fresh).2
      ∧ ((∃ s, (validate wheel hub (validate wheel hub .fresh).2).1 = .ok s) ↔ wheel.Valid hub) := by
  have hd : wheel.Defines hub := List.mem_cons_self
  have hm : Reached wheel .standard wheel.Defines (validate wheel hub .fresh).2 := .validate .fresh hd
  exact ⟨namesUnique_wheel, hd, hm, validate_exact namesUnique_wheel hm hd⟩

end Materializer
end BulletinPipeline
