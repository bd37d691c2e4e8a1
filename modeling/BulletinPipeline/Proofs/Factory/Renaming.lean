import BulletinPipeline.Proofs.Entries
import BulletinPipeline.Factory.Basic
import Mathlib.Data.Set.Function

namespace BulletinPipeline.Renaming

variable {rename next : Renaming} {raw raw' raw'' out : Entries Value} {seen : Entries String}
  {factory : String}

-- The values of one map under their new names.
structure Renames (rename : Renaming) (raw raw' : Entries Value) : Prop where
  ascending : raw'.Ascending
  mem_iff   : ∀ j v, (j, v) ∈ raw' ↔ ∃ k, (k, v) ∈ raw ∧ rename k = j

-- No two names of the map become one.
def Separates (rename : Renaming) (raw : Entries Value) : Prop :=
  Set.InjOn rename {k | k ∈ Entries.keys raw}

instance (rename : Renaming) (raw : Entries Value) : Decidable (rename.Separates raw) :=
  decidable_of_iff (∀ k ∈ Entries.keys raw, ∀ j ∈ Entries.keys raw, rename k = rename j → k = j)
    ⟨fun h k hk j hj => h k hk j hj, fun h _ hk _ hj => h hk hj⟩

theorem separates_iff (hr : raw.Ascending) :
    rename.Separates raw ↔ ((Entries.keys raw).map rename).Nodup := by
  have hn : (Entries.keys raw).Nodup := List.Pairwise.imp ne_of_lt hr
  rw [List.nodup_map_iff_inj_on hn]
  exact ⟨fun h k hk j hj => h hk hj, fun h k hk j hj => h k hk j hj⟩

-- The new names have to be apart from those that were seen, and from each other.
theorem renameFrom_eq_ok_iff : renameFrom factory rename seen out raw = .ok raw'
    ↔ (∀ k ∈ Entries.keys raw, rename k ∉ Entries.keys seen) ∧ ((Entries.keys raw).map rename).Nodup
      ∧ raw' = raw.foldl (fun es e => Entries.insert (rename e.1) e.2 es) out := by
  induction raw generalizing seen out
  case nil => simp [renameFrom, Entries.keys, eq_comm]
  case cons e raw hi =>
    rw [renameFrom, Entries.keys_cons, List.forall_mem_cons, List.map_cons, List.nodup_cons, List.foldl_cons]
    cases hs : seen.lookup (rename e.1)
    case some first => simp [Entries.mem_keys_of_lookup hs]
    case none =>
      have hs := Entries.lookup_eq_none_iff.mp hs
      simp only [hi, Entries.keys_cons, List.mem_cons, not_or, hs, List.mem_map, not_exists, not_and]
      constructor
      case mp =>
        rintro ⟨hk, hn, ho⟩
        exact ⟨⟨not_false, fun k hm => (hk k hm).2⟩, ⟨fun k hm => (hk k hm).1, hn⟩, ho⟩
      case mpr =>
        rintro ⟨⟨_, hk⟩, ⟨he, hn⟩, ho⟩
        exact ⟨fun k hm => ⟨he k hm, hk k hm⟩, hn, ho⟩

-- The scan stops at a name whose new name was seen, or is that of a name that it has passed.
theorem of_renameFrom_eq_error {e : Error} (h : renameFrom factory rename seen out raw = .error e) :
    ∃ before k v after first, raw = before ++ (k, v) :: after ∧ ((Entries.keys before).map rename).Nodup
      ∧ (∀ j ∈ Entries.keys before, rename j ∉ Entries.keys seen)
      ∧ ((rename k, first) ∈ seen ∨ first ∈ Entries.keys before ∧ rename first = rename k)
      ∧ e = .duplicateRenamedKey factory (rename k) first k := by
  induction raw generalizing seen out
  case nil => contradiction
  case cons x raw hi =>
    rw [renameFrom] at h
    cases hs : seen.lookup (rename x.1) <;> rw [hs] at h
    case some first =>
      cases h
      exact ⟨[], x.1, x.2, raw, first, rfl, .nil, nofun, .inl (Entries.mem_of_lookup hs), rfl⟩
    case none =>
      have hx := Entries.lookup_eq_none_iff.mp hs
      obtain ⟨before, k, v, after, first, rfl, hn, hb, hf, he⟩ := hi h
      simp only [Entries.keys_cons, List.mem_cons, not_or] at hb
      refine ⟨x :: before, k, v, after, first, rfl, ?_, ?_, ?_, he⟩
      · refine List.nodup_cons.mpr ⟨fun hm => ?_, hn⟩
        obtain ⟨j, hj, hq⟩ := List.mem_map.mp hm
        exact (hb j hj).1 hq
      · exact List.forall_mem_cons.mpr ⟨hx, fun j hj => (hb j hj).2⟩
      · rcases hf with hf | ⟨hf, hq⟩
        · cases List.mem_cons.mp hf
          case inl hq =>
            obtain ⟨hk, rfl⟩ := Prod.mk.inj hq
            exact .inr ⟨List.mem_cons_self, hk.symm⟩
          case inr hf => exact .inl hf
        · exact .inr ⟨List.mem_cons_of_mem _ hf, hq⟩

theorem apply_eq_ok_iff (hr : raw.Ascending) : rename.apply factory raw = .ok raw'
    ↔ rename.Separates raw ∧ raw' = Entries.ofList (raw.map fun e => (rename e.1, e.2)) := by
  simp [apply, renameFrom_eq_ok_iff, separates_iff hr, Entries.ofList, List.foldl_map, Entries.keys]

theorem exists_renames (hr : raw.Ascending) (hs : rename.Separates raw) (factory : String) :
    ∃ raw', rename.apply factory raw = .ok raw' ∧ rename.Renames raw raw' := by
  refine ⟨_, (apply_eq_ok_iff hr).mpr ⟨hs, rfl⟩, Entries.ascending_ofList _, fun j v => ?_⟩
  have hn : (Entries.keys (raw.map fun e => (rename e.1, e.2))).Nodup := by
    have hn := (separates_iff hr).mp hs
    simpa [Entries.keys, Function.comp_def] using hn
  rw [Entries.mem_ofList_iff hn]
  simp

theorem exists_error (hr : raw.Ascending) (hs : ¬rename.Separates raw) (factory : String) :
    ∃ e, rename.apply factory raw = .error e ∧ e.kind = .duplicateOption := by
  cases ha : rename.apply factory raw
  case ok raw'  => exact absurd ((apply_eq_ok_iff hr).mp ha).1 hs
  case error e =>
    obtain ⟨_, _, _, _, _, _, _, _, _, rfl⟩ := of_renameFrom_eq_error ha
    exact ⟨_, rfl, rfl⟩

theorem renames_id (hr : raw.Ascending) : Renames id raw raw :=
  ⟨hr, by simp⟩

namespace Renames

theorem mem_keys_iff (h : rename.Renames raw raw') (j : String) :
    j ∈ Entries.keys raw' ↔ ∃ k ∈ Entries.keys raw, rename k = j := by
  simp only [Entries.keys, List.mem_map, Prod.exists, exists_and_right, exists_eq_right, h.mem_iff]
  tauto

theorem comp (h : rename.Renames raw raw') (hn : next.Renames raw' raw'') :
    Renames (next ∘ rename) raw raw'' := by
  refine ⟨hn.ascending, fun j v => ?_⟩
  simp only [hn.mem_iff, h.mem_iff]
  constructor
  case mp =>
    intro ⟨_, ⟨k, hk, he⟩, hj⟩
    exact ⟨k, hk, (congrArg next he).trans hj⟩
  case mpr =>
    intro ⟨k, hk, hj⟩
    exact ⟨rename k, ⟨k, hk, rfl⟩, hj⟩

theorem separates_comp_iff (h : rename.Renames raw raw') (hs : rename.Separates raw) :
    Separates (next ∘ rename) raw ↔ next.Separates raw' := by
  have hk : {j | j ∈ Entries.keys raw'} = rename '' {k | k ∈ Entries.keys raw} :=
    Set.ext h.mem_keys_iff
  rw [Separates, Separates, hk]
  exact Set.InjOn.comp_iff hs

end Renames
end BulletinPipeline.Renaming
