import BulletinPipeline.Json.Write
import BulletinPipeline.Proofs.Conversion.Conformity
import BulletinPipeline.Proofs.Value.Erasure

namespace BulletinPipeline

namespace Data

mutual

-- What a tree of JSON keeps of data: it has no infinities and no not-a-number.
def kept : Data → Data
  | null        => null
  | bool b      => bool b
  | integer n   => integer n
  | float d     => if d.isFinite then float d else null
  | text s      => text s
  | list items  => list (keptItems items)
  | map entries => map (keptEntries entries)

def keptItems : List Data → List Data
  | []      => []
  | d :: ds => d.kept :: keptItems ds

def keptEntries : List (String × Data) → List (String × Data)
  | []           => []
  | (k, d) :: es => (k, d.kept) :: keptEntries es

end

mutual

-- The text is that of the tree.
theorem write_kept : ∀ d : Data, Json.write d.kept = Json.write d
  | null | bool _ | integer _ | text _ => rfl
  | float d     => by
    rw [kept]
    split
    case isTrue    => rfl
    case isFalse h => rw [Json.write, Json.write, if_neg h]
  | list items  => by simp [kept, Json.write, writeItems_keptItems items]
  | map entries => by simp [kept, Json.write, writeEntries_keptEntries entries]

theorem writeItems_keptItems : ∀ ds, Json.writeItems (keptItems ds) = Json.writeItems ds
  | []      => rfl
  | d :: ds => by simp [keptItems, Json.writeItems, write_kept d, writeItems_keptItems ds]

theorem writeEntries_keptEntries : ∀ es, Json.writeEntries (keptEntries es) = Json.writeEntries es
  | []           => rfl
  | (_, d) :: es => by simp [keptEntries, Json.writeEntries, write_kept d, writeEntries_keptEntries es]

end

end Data

namespace Value

open Data (kept keptItems keptEntries)

variable {v : Value}

theorem toData_double_or_null (d : Double) :
    (if d.isFinite then double d else null : Value).toData = (Data.float d).kept := by
  rw [kept]
  split <;> rfl

theorem loaded_double_or_null (d : Double) : (if d.isFinite then double d else null : Value).Loaded := by
  split
  case isTrue h => exact .double h
  case isFalse  => exact .null

mutual

-- Nothing but what is erased is lost in the tree.
theorem toData_erase : ∀ v : Value, v.erase.toData = v.toData.kept
  | null | bool _ | long _ | string _ | absent | object _ => rfl
  | int n                   => by simp [erase, toData, kept]
  | double d                => toData_double_or_null d
  | list items              => by simp [erase, toData, kept, toDataItems_eraseItems items]
  | map entries             => by simp [erase, toData, kept, toDataEntries_eraseEntries entries]
  | present v               => by simp [erase, toData, toData_erase v]
  | optionalInt none        => rfl
  | optionalInt (some n)    => by simp [erase, toData, kept]
  | optionalLong none       => rfl
  | optionalLong (some _)   => rfl
  | optionalDouble none     => rfl
  | optionalDouble (some d) => toData_double_or_null d
  | config _ ps             => by simp [erase, toData, kept, toDataEntries_eraseEntries ps]

theorem toDataItems_eraseItems : ∀ vs, toDataItems (eraseItems vs) = keptItems (toDataItems vs)
  | []      => rfl
  | v :: vs => by simp [eraseItems, toDataItems, keptItems, toData_erase v, toDataItems_eraseItems vs]

theorem toDataEntries_eraseEntries : ∀ es, toDataEntries (eraseEntries es) = keptEntries (toDataEntries es)
  | []           => rfl
  | (_, v) :: es => by simp [eraseEntries, toDataEntries, keptEntries, toData_erase v, toDataEntries_eraseEntries es]

end

mutual

theorem loaded_erase : ∀ v : Value, v.erase.Loaded
  | null | absent           => .null
  | bool b                  => .bool b
  | int n                   => .long n.toInt64
  | long n                  => .long n
  | double d                => loaded_double_or_null d
  | string s                => .string s
  | list items              => .list (loaded_eraseItems items)
  | map entries             => .map (loaded_eraseEntries entries)
  | present v               => loaded_erase v
  | optionalInt none        => .null
  | optionalInt (some n)    => .long n.toInt64
  | optionalLong none       => .null
  | optionalLong (some n)   => .long n
  | optionalDouble none     => .null
  | optionalDouble (some d) => loaded_double_or_null d
  | config _ ps             => .map (loaded_eraseEntries ps)
  | object _                => .string _

theorem loaded_eraseItems : ∀ vs, ∀ v ∈ eraseItems vs, v.Loaded
  | []      => List.forall_mem_nil _
  | v :: vs => List.forall_mem_cons.mpr ⟨loaded_erase v, loaded_eraseItems vs⟩

theorem loaded_eraseEntries : ∀ es, ∀ e ∈ eraseEntries es, e.2.Loaded
  | []           => List.forall_mem_nil _
  | (_, v) :: es => List.forall_mem_cons.mpr ⟨loaded_erase v, loaded_eraseEntries es⟩

end

theorem erase_eq_self_iff : v.erase = v ↔ v.Loaded :=
  ⟨fun h => h ▸ loaded_erase v, Loaded.erase_eq⟩

theorem allFinite_map_iff {es : Entries Value} : (map es).AllFinite ↔ ∀ e ∈ es, e.2.AllFinite :=
  allFinite_config_iff (s := "")

theorem loaded_iff : v.Loaded ↔ v.Raw ∧ v.AllFinite := by
  constructor
  case mp =>
    intro h
    induction h
    case null        => exact ⟨.null, List.forall_mem_nil _⟩
    case bool b      => exact ⟨.bool b, List.forall_mem_nil _⟩
    case long n      => exact ⟨.long n, List.forall_mem_nil _⟩
    case double d h  => exact ⟨.double d, List.forall_mem_singleton.mpr h⟩
    case string s    => exact ⟨.string s, List.forall_mem_nil _⟩
    case list _ hi   => exact ⟨.list fun v hv => (hi v hv).1, allFinite_list_iff.mpr fun v hv => (hi v hv).2⟩
    case map _ hi    => exact ⟨.map fun e he => (hi e he).1, allFinite_map_iff.mpr fun e he => (hi e he).2⟩
  case mpr =>
    rintro ⟨h, hf⟩
    induction h
    case null     => exact .null
    case bool b   => exact .bool b
    case long n   => exact .long n
    case double d => exact .double (hf d (List.mem_singleton_self d))
    case string s => exact .string s
    case list hi  => exact .list fun v hv => hi v hv (allFinite_list_iff.mp hf v hv)
    case map hi   => exact .map fun e he => hi e he (allFinite_map_iff.mp hf e he)

theorem ofData_kept_toData (v : Value) : ofData v.toData.kept = v.erase := by
  rw [← toData_erase, ofData_toData, erase_eq_self_iff.mpr (loaded_erase v)]

-- Two values have one tree exactly if they differ in what is erased only.
theorem erased_exactly (v : Value) :
    ofData v.toData.kept = v.erase
      ∧ (ofData v.toData.kept = v ↔ v.Raw ∧ v.AllFinite)
      ∧ (∀ w : Value, w.toData.kept = v.toData.kept ↔ w.erase = v.erase)
      ∧ Json.write v.toData.kept = Json.write v.toData := by
  refine ⟨ofData_kept_toData v, ?_, fun w => ⟨fun h => ?_, fun h => ?_⟩, Data.write_kept _⟩
  · rw [ofData_kept_toData, erase_eq_self_iff, loaded_iff]
  · rw [← ofData_kept_toData, h, ofData_kept_toData]
  · rw [← toData_erase, h, toData_erase]

end Value
end BulletinPipeline
