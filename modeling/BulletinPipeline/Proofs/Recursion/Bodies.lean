import BulletinPipeline.Proofs.Recursion.Work
import BulletinPipeline.Proofs.Schema.Agreement

namespace BulletinPipeline.Recursion

open Conversion

namespace Work

variable {env : Environment} {raw : Value} {t : ValueType}

def validateAll (env : Environment) (path : List String) :
    List SchemaRef → Memory → Work (Except SchemaError Unit × Memory)
  | [],      m => .done (.ok (), m)
  | r :: rs, m =>
    match env.resolve? r with
    | none   => .done (.error (.violation r.name .concrete), m)
    | some d => .call (.validate d path m) fun
      | (.error e, m) => .done (.error e, m)
      | (.ok _, m)    => validateAll env path rs m

def validate (env : Environment) (d : Descriptor) (path : List String) (m : Memory) :
    Work (Except SchemaError Schema × Memory) :=
  match m.find? d with
  | some r => .done (.ok r.schema, m)
  | none =>
    if d.name ∈ path then .done (.error (.circular (path ++ [d.name])), m)
    else match Schema.ofDescriptor d with
      | .error e => .done (.error e, m)
      | .ok s    => do
        match ← validateAll env (path ++ [d.name]) s.references m with
        | (.error e, m) => return (.error e, m)
        | (.ok _, m)    => return (.ok s, m.remember d s)

-- Validates a descriptor outside of any path, and builds its schema inside the schemas of a path.
def configure (d : Descriptor) (raw : Entries Value) (path : List String) : Building Config := fun m =>
  .call (.validate d [] m) fun
    | (.error e, m) => .done (.error (.schema e), m)
    | (.ok s, m)    => .call (.build s raw path m) .done

def configureRef (env : Environment) (r : SchemaRef) (raw : Entries Value) (path : List String) : Building Config :=
  match env.resolve? r with
  | none   => throw (.schema (.violation r.name .concrete))
  | some d => configure d raw path

def convertProperty (s : Schema) (p : Property) (v : Value) : Building (String × Value) := fun m =>
  .call (.convert v p.accessor.returns) fun
    | .ok v    => .done (.ok (p.name, v), m)
    | .error e => .done (.error (.conversion s.name p.name e), m)

def assign (env : Environment) (s : Schema) (raw : Entries Value) (path : List String) (p : Property) :
    Building (String × Value) :=
  match raw.lookup p.name with
  | none =>
    match p.accessor.returns.empty? with
    | some v => pure (p.name, v)
    | none   => throw (.missingRequiredOption s.name p.name)
  | some v =>
    match v, p.nested? with
    | .map nested, some r => do
      let c ← configureRef env r nested (path ++ [s.name])
      pure (p.name, if p.isOptional then .present c.toValue else c.toValue)
    | v, _ => convertProperty s p v

def build (env : Environment) (s : Schema) (raw : Entries Value) (path : List String) : Building Config :=
  if s.name ∈ path then throw (.schema (.circular (path ++ [s.name])))
  else match s.unknown? raw with
    | some key => throw (.unknownOption s.name key)
    | none     => do
      let properties ← s.properties.mapM (assign env s raw path)
      pure ⟨s.name, properties⟩

def convertItems (item : ValueType) : Nat → List Value → Work (Result (List Value))
  | _,     []          => .done (.ok [])
  | index, raw :: raws => .call (.convert raw item) fun
    | .error e => .done (.error (.element index e))
    | .ok v    => do return (← convertItems item (index + 1) raws).map (v :: ·)

-- A value that is no list stands for the list of it alone.
def itemsOf : Value → List Value
  | .list raws => raws
  | raw        => [raw]

def convertToSchema (env : Environment) (r : SchemaRef) : Value → Work (Result Value)
  | .config s ps => .done (if s = r.name then .ok (.config s ps) else .error (.incompatible (.schema r) .config))
  | .map raws    => do
    match (← configureRef env r raws [] .none).1 with
    | .ok c    => return .ok c.toValue
    | .error e => return .error (.nested e)
  | raw          => .done (.error (.incompatible (.schema r) raw.kind))

-- Conversion of a value that is neither null nor a wrapper.
def convertBare (env : Environment) (raw : Value) : ValueType → Work (Result Value)
  | .any           => .done (.ok raw)
  | .bool          => .done ((toBool raw).map .bool)
  | .int           => .done ((toInt raw).map .int)
  | .long          => .done ((toLong raw).map .long)
  | .double        => .done ((toDouble raw).map .double)
  | .string        => .done ((toText raw).map .string)
  | .list item     => do return (← convertItems item 0 (itemsOf raw)).map .list
  | .map           => .done (match raw with
    | .map raws    => .ok (.map raws)
    | .config _ ps => .ok (.map ps)
    | raw          => .error (.incompatible .map raw.kind))
  | .schema r      => convertToSchema env r raw
  | .object t      => .done (match raw with
    | .object o    => if o.type = t then .ok (.object o) else .error (.incompatible (.object t) .object)
    | raw          => .error (.incompatible (.object t) raw.kind))
  -- The optional types read what they wrap.
  | t              => .call (.convert raw t.unwrapped) fun r => .done (r >>= t.wrap)

def convert (env : Environment) (raw : Value) (t : ValueType) : Work (Result Value) :=
  if raw = .null then .done (.ok t.nothing)
  else match raw.held? with
    | some held =>
      if t.isPrimitiveOptional && t.assignableFrom raw.type then .done (.ok raw)
      else .call (.convert (held.getD .null) t) .done
    | none => convertBare env raw t

end Work

namespace Call

def work (env : Environment) : (c : Call) → Work c.Answer
  | validate d path m  => Work.validate env d path m
  | build s raw path m => Work.build env s raw path m
  | convert raw t      => Work.convert env raw t

def answer (env : Environment) : (c : Call) → c.Answer
  | validate d path m  => BulletinPipeline.validate env d path m
  | build s raw path m => s.fill env (Converter.standard.toResult env) raw path m
  | convert raw t      => Conversion.convert env raw t

end Call

namespace Work

variable {env : Environment} {raw : Value} {t : ValueType}

theorem run_validateAll (path : List String) (rs : List SchemaRef) (m : Memory) :
    (validateAll env path rs m).run (Call.answer env) = BulletinPipeline.validateAll env rs path m := by
  induction rs generalizing m
  case nil =>
    rw [BulletinPipeline.validateAll]
    rfl
  case cons r rs hi =>
    rw [validateAll]
    cases hr : env.resolve? r
    case none   => exact (Environment.validateAll_cons_none hr rs).symm
    case some d =>
      simp only [Environment.validateAll_cons_some hr, run, Call.answer]
      rcases BulletinPipeline.validate env d path m with ⟨_ | _, m⟩
      case error => rfl
      case ok    => exact hi m

theorem run_validate (d : Descriptor) (path : List String) (m : Memory) :
    (validate env d path m).run (Call.answer env) = BulletinPipeline.validate env d path m := by
  rw [validate, BulletinPipeline.validate]
  cases m.find? d
  case some r => rfl
  dsimp only
  split
  case isTrue => rfl
  cases Schema.ofDescriptor d
  case error e => rfl
  case ok s    =>
    dsimp only
    rw [run_bind, run_validateAll]
    rcases BulletinPipeline.validateAll env s.references (path ++ [d.name]) m with ⟨_ | _, _⟩ <;> rfl

theorem run_configure (d : Descriptor) (raw : Entries Value) (path : List String) :
    (configure d raw path).run (Call.answer env)
      = (Materializer.validate env d >>= fun s => s.fill env (Converter.standard.toResult env) raw path) := by
  funext m
  simp only [bind_apply, Building.run, configure, run, Call.answer, Materializer.validate]
  rcases BulletinPipeline.validate env d [] m with ⟨_ | _, m⟩ <;> rfl

theorem run_configureRef (r : SchemaRef) (raw : Entries Value) (path : List String) :
    (configureRef env r raw path).run (Call.answer env)
      = (Schema.resolve env r >>= fun s => s.fill env (Converter.standard.toResult env) raw path) := by
  rw [configureRef]
  cases hr : env.resolve? r
  case some d => rw [Materializer.resolve_eq_validate hr, run_configure]
  case none   =>
    funext m
    simp only [bind_apply, Schema.resolve, hr]
    rfl

theorem run_convertProperty (s : Schema) (p : Property) (v : Value) :
    (convertProperty s p v).run (Call.answer env) = match Converter.standard.toResult env v p.accessor with
      | .ok v    => pure (p.name, v)
      | .error e => throw (.conversion s.name p.name e) := by
  funext m
  simp only [Building.run, convertProperty, run, Call.answer, Converter.standard]
  cases Conversion.convert env v p.accessor.returns <;> rfl

theorem run_assign (s : Schema) (raw : Entries Value) (path : List String) (p : Property) :
    (assign env s raw path p).run (Call.answer env) = s.assign (Converter.standard.toResult env)
      (fun r nested => do
        let t ← Schema.resolve env r
        t.fill env (Converter.standard.toResult env) nested (path ++ [s.name])) raw p := by
  rw [assign, Schema.assign]
  cases raw.lookup p.name
  case none => cases p.accessor.returns.empty? <;> rfl
  case some v =>
    cases v
    case map nested =>
      cases hn : p.nested?
      case none   => exact run_convertProperty s p (.map nested)
      case some r =>
        simp only [Building.run_bind, run_configureRef]
        rfl
    all_goals exact run_convertProperty s p _

theorem run_build (s : Schema) (raw : Entries Value) (path : List String) :
    (build env s raw path).run (Call.answer env) = s.fill env (Converter.standard.toResult env) raw path := by
  rw [build, Schema.fill_eq]
  split
  case isTrue => rfl
  rw [Schema.assemble]
  cases s.unknown? raw
  case some key => rfl
  case none     =>
    rw [Building.run_bind, Building.run_mapM]
    refine congrArg (· >>= _) (congrArg (List.mapM · s.properties) (funext fun p => ?_))
    exact run_assign s raw path p

theorem run_convertItems (item : ValueType) (index : Nat) (raws : List Value) :
    (convertItems item index raws).run (Call.answer env) = Conversion.convertItems env item index raws := by
  induction raws generalizing index
  case nil =>
    rw [Conversion.convertItems]
    rfl
  case cons raw raws hi =>
    simp only [Conversion.convertItems, convertItems, run, Call.answer]
    cases Conversion.convert env raw item
    case error e => rfl
    case ok v    =>
      rw [← hi]
      exact run_bind ..

theorem itemsOf_of_ne_list (h : ∀ raws, raw ≠ .list raws) : itemsOf raw = [raw] := by
  rw [itemsOf]
  exact h

theorem run_convertList (h : raw.Bare) (t : ValueType) :
    (convertBare env raw (.list t)).run (Call.answer env) = Conversion.convert env raw (.list t) := by
  rw [convertBare, run_bind, run_convertItems]
  by_cases hl : ∃ raws, raw = .list raws
  case pos =>
    obtain ⟨raws, rfl⟩ := hl
    exact (convert_list raws).symm
  case neg =>
    rw [not_exists] at hl
    rw [itemsOf_of_ne_list hl, convert_single h hl, Conversion.convertItems, Conversion.convertItems]
    cases Conversion.convert env raw t <;> rfl

theorem run_convertToSchema (h : raw.Bare) (r : SchemaRef) :
    (convertToSchema env r raw).run (Call.answer env) = Conversion.convert env raw (.schema r) := by
  rcases raw.eq_map_or_config_or with ⟨raws, rfl⟩ | ⟨s, ps, rfl⟩ | ⟨hm, hc⟩
  case inl =>
    rw [convert_schema, ← run_configureRef, convertToSchema, run_bind, Building.run]
    rcases (configureRef env r raws [] .none).run _ with ⟨_ | _, _⟩ <;> rfl
  case inr.inl => exact (convert_config s ps r).symm
  case inr.inr =>
    rw [convert_schema_of_bare h hm hc, convertToSchema]
    · rfl
    · exact hc
    · exact hm

theorem run_convertBare (h : raw.Bare) (t : ValueType) :
    (convertBare env raw t).run (Call.answer env) = Conversion.convert env raw t := by
  cases t
  case list t => exact run_convertList h t
  case schema r => exact run_convertToSchema h r
  case optional | optionalInt | optionalLong | optionalDouble => exact (convert_eq_wrap h rfl).symm
  all_goals
    rw [convert_plain h rfl]
    rfl

theorem run_convert (raw : Value) (t : ValueType) :
    (convert env raw t).run (Call.answer env) = Conversion.convert env raw t := by
  rw [convert]
  split
  case isTrue hn => rw [hn, convert_null, run]
  case isFalse hn =>
    cases hh : raw.held?
    case none      => exact run_convertBare ⟨hh, hn⟩ t
    case some held =>
      rw [convert_held hh]
      dsimp only
      split
      case isTrue  => rfl
      case isFalse =>
        cases held
        case none   => exact convert_null t
        case some v => rfl

end Work

-- The functions meet the equations that their work gives.
theorem Call.run_work (env : Environment) (c : Call) : (c.work env).run (answer env) = c.answer env := by
  cases c
  case validate d path m  => exact Work.run_validate d path m
  case build s raw path m => exact congrFun (Work.run_build s raw path) m
  case convert raw t      => exact Work.run_convert raw t

end BulletinPipeline.Recursion
