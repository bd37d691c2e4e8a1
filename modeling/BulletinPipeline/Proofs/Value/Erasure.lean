import BulletinPipeline.Value.Data
import Mathlib.Data.List.Basic

namespace BulletinPipeline.Value

mutual

def erase : Value → Value
  | null             => null
  | bool b           => bool b
  | int n            => long n.toInt64
  | long n           => long n
  | double d         => if d.isFinite then double d else null
  | string s         => string s
  | list items       => list (eraseItems items)
  | map entries      => map (eraseEntries entries)
  | absent           => null
  | present v        => v.erase
  | optionalInt n    => (n.map fun n => long n.toInt64).getD null
  | optionalLong n   => (n.map long).getD null
  | optionalDouble d => (d.map fun d => if d.isFinite then double d else null).getD null
  | config _ ps      => map (eraseEntries ps)
  | object o         => string ("<" ++ o.type.name ++ ">")

def eraseItems : List Value → List Value
  | []      => []
  | v :: vs => v.erase :: eraseItems vs

def eraseEntries : List (String × Value) → List (String × Value)
  | []           => []
  | (k, v) :: es => (k, v.erase) :: eraseEntries es

end

theorem ofInteger_long (n : Int64) : ofInteger n.toInt = long n := by
  have hl := n.le_toInt
  have hu := n.toInt_lt
  rw [ofInteger, if_pos ⟨by simpa using hl, by simpa using hu⟩, Int64.ofInt_toInt]

theorem ofInteger_int (n : Int32) : ofInteger n.toInt = long n.toInt64 := by
  rw [← Int32.toInt_toInt64, ofInteger_long]

mutual

theorem ofData_toData : ∀ v : Value, ofData v.toData = v.erase
  | null | bool _ | string _ | absent | object _ => by simp [toData, ofData, erase]
  | double _               => by simp [toData, ofData, ofFloat, erase]
  | int n                  => by simp [toData, ofData, erase, ofInteger_int]
  | long n                 => by simp [toData, ofData, erase, ofInteger_long]
  | list items             => by simp [toData, ofData, erase, ofDataItems_toDataItems items]
  | map entries            => by simp [toData, ofData, erase, ofDataEntries_toDataEntries entries]
  | present v              => by simp [toData, erase, ofData_toData v]
  | config _ ps            => by simp [toData, ofData, erase, ofDataEntries_toDataEntries ps]
  | optionalInt none       => by simp [toData, ofData, erase]
  | optionalInt (some n)   => by simp [toData, ofData, erase, ofInteger_int]
  | optionalLong none      => by simp [toData, ofData, erase]
  | optionalLong (some n)  => by simp [toData, ofData, erase, ofInteger_long]
  | optionalDouble none    => by simp [toData, ofData, erase]
  | optionalDouble (some _) => by simp [toData, ofData, ofFloat, erase]

theorem ofDataItems_toDataItems : ∀ vs, ofDataItems (toDataItems vs) = eraseItems vs
  | []      => rfl
  | v :: vs => by simp [toDataItems, ofDataItems, eraseItems, ofData_toData v, ofDataItems_toDataItems vs]

theorem ofDataEntries_toDataEntries : ∀ es, ofDataEntries (toDataEntries es) = eraseEntries es
  | []           => rfl
  | (k, v) :: es => by
    simp [toDataEntries, ofDataEntries, eraseEntries, ofData_toData v, ofDataEntries_toDataEntries es]

end

theorem eraseItems_eq_map (vs : List Value) : eraseItems vs = vs.map erase := by
  induction vs
  case nil          => rfl
  case cons v vs hi => rw [eraseItems, List.map_cons, hi]

theorem eraseEntries_eq_mapValues (es : Entries Value) : eraseEntries es = es.mapValues erase := by
  induction es
  case nil          => rfl
  case cons e es hi => rw [eraseEntries, hi]; rfl

theorem held?_ofData (d : Data) : (ofData d).held? = none := by
  cases d <;> simp only [ofData, ofInteger, ofFloat] <;> (try split) <;> rfl

theorem held?_erase (v : Value) : v.erase.held? = none := by
  rw [← ofData_toData]
  exact held?_ofData _

-- The values that loaders give.
inductive Loaded : Value → Prop
  | null : Loaded null
  | bool (b : Bool) : Loaded (bool b)
  | long (n : Int64) : Loaded (long n)
  | double {d : Double} : d.isFinite → Loaded (double d)
  | string (s : String) : Loaded (string s)
  | list {items : List Value} : (∀ v ∈ items, Loaded v) → Loaded (list items)
  | map {entries : Entries Value} : (∀ e ∈ entries, Loaded e.2) → Loaded (map entries)

theorem Loaded.erase_eq {v : Value} (h : v.Loaded) : v.erase = v := by
  induction h
  case null | bool | long | string => rfl
  case double h => exact if_pos h
  case list hi =>
    rw [erase, eraseItems_eq_map, List.map_congr_left hi, List.map_id']
  case map entries _ hi =>
    have he (e : String × Value) (hm : e ∈ entries) : (e.1, e.2.erase) = e := by rw [hi e hm]
    rw [erase, eraseEntries_eq_mapValues, Entries.mapValues, List.map_congr_left he, List.map_id']

mutual

-- The floating point numbers that occur in a value.
def doubles : Value → List Double
  | double d         => [d]
  | list items       => doublesOfItems items
  | map entries      => doublesOfEntries entries
  | present v        => v.doubles
  | optionalDouble d => d.toList
  | config _ ps      => doublesOfEntries ps
  | _                => []

def doublesOfItems : List Value → List Double
  | []      => []
  | v :: vs => v.doubles ++ doublesOfItems vs

def doublesOfEntries : List (String × Value) → List Double
  | []           => []
  | (_, v) :: es => v.doubles ++ doublesOfEntries es

end

theorem doublesOfItems_eq_flatMap (vs : List Value) : doublesOfItems vs = vs.flatMap doubles := by
  induction vs
  case nil          => rfl
  case cons v vs hi => rw [doublesOfItems, List.flatMap_cons, hi]

theorem doublesOfEntries_eq_flatMap (es : Entries Value) :
    doublesOfEntries es = es.flatMap fun e => e.2.doubles := by
  induction es
  case nil          => rfl
  case cons e es hi => rw [doublesOfEntries, List.flatMap_cons, hi]

def AllFinite (v : Value) : Prop :=
  ∀ d ∈ v.doubles, d.isFinite

theorem allFinite_list_iff {items : List Value} : (list items).AllFinite ↔ ∀ v ∈ items, v.AllFinite := by
  simp only [AllFinite, doubles, doublesOfItems_eq_flatMap, List.mem_flatMap]
  exact ⟨fun h v hv d hd => h d ⟨v, hv, hd⟩, fun h d ⟨v, hv, hd⟩ => h v hv d hd⟩

theorem allFinite_config_iff {s : String} {ps : Entries Value} :
    (config s ps).AllFinite ↔ ∀ e ∈ ps, e.2.AllFinite := by
  simp only [AllFinite, doubles, doublesOfEntries_eq_flatMap, List.mem_flatMap]
  exact ⟨fun h e he d hd => h d ⟨e, he, hd⟩, fun h d ⟨e, he, hd⟩ => h e he d hd⟩

end BulletinPipeline.Value
