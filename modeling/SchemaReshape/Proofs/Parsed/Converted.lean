import Mathlib.Data.List.Forall2
import SchemaReshape.Parsed.Executable

/-!
# What the parts of a parsed document become

`Becomes` relates what is parsed to what it is in a document, with one rule for each form that it
has: lists are related place by place, so that nothing is lost, doubled or moved. Each conversion
gives what its relation says and nothing else (`Value.becomes_iff`, `Selection.becomes_iff`,
`becomesOperation_iff`, `becomesFragment_iff`).
-/

namespace SchemaReshape.Parsed

section Relations

variable {constant : Bool}

inductive Value.Becomes : Value constant → SchemaReshape.Value → Prop
  | var (name : Name) (allowed : constant = false) : Becomes (.var name allowed) (.var name)
  | null : Becomes .null .null
  | int (text : String) : Becomes (.number ⟨false, text⟩) (.int text)
  | float (text : String) : Becomes (.number ⟨true, text⟩) (.float text)
  | string (text : String) : Becomes (.string text) (.string text)
  | boolean (value : Bool) : Becomes (.boolean value) (.boolean value)
  | binary (bytes : List UInt8) : Becomes (.binary bytes) (.string (Text.lossy bytes))
  | enum (name : Name) : Becomes (.enum name) (.enum name)
  | list {vs : List (Value constant)} {ws : List SchemaReshape.Value}
      (values : List.Forall₂ Becomes vs ws) : Becomes (.list vs) (.list ws)
  | object {fs : List (Name × Value constant)} {gs : List (Name × SchemaReshape.Value)}
      (names : fs.map (·.1) = gs.map (·.1))
      (values : List.Forall₂ Becomes (fs.map (·.2)) (gs.map (·.2))) :
      Becomes (.object fs) (.object gs)

structure BecomesArgument (a : Name × Value constant) (b : Argument) : Prop where
  name : b.name = a.1
  value : a.2.Becomes b.value

structure Directive.Becomes (d : Directive constant) (d' : SchemaReshape.Directive) : Prop where
  name : d'.name = d.name
  arguments : List.Forall₂ BecomesArgument d.arguments d'.arguments

end Relations

inductive TypeRef.Becomes : TypeRef → SchemaReshape.TypeRef → Prop
  | named (name : Name) : Becomes (.named name true) (.named name)
  | namedNonNull (name : Name) : Becomes (.named name false) (.nonNull (.named name))
  | list {t : TypeRef} {u : SchemaReshape.TypeRef} (inner : Becomes t u) :
      Becomes (.list t true) (.list u)
  | listNonNull {t : TypeRef} {u : SchemaReshape.TypeRef} (inner : Becomes t u) :
      Becomes (.list t false) (.nonNull (.list u))

structure VariableDefinition.Becomes (v : VariableDefinition)
    (v' : SchemaReshape.VariableDefinition) : Prop where
  name : v'.name = v.name
  type : v.type.Becomes v'.type
  default : Option.Rel Value.Becomes v.default? v'.default
  directives : List.Forall₂ Directive.Becomes v.directives v'.directives

inductive Selection.Becomes : Selection → SchemaReshape.Selection → Prop
  | field (alias? : Option Name) (name : Name)
      {as : List (Name × Value false)} {ds : List (Directive false)} {ss : List Selection}
      {as' : List Argument} {ds' : List SchemaReshape.Directive}
      {ss' : List SchemaReshape.Selection}
      (arguments : List.Forall₂ BecomesArgument as as')
      (directives : List.Forall₂ Directive.Becomes ds ds')
      (selections : List.Forall₂ Becomes ss ss') :
      Becomes (.field alias? name as ds ss) (.field ⟨alias?, name, as', ds'⟩ ss')
  | fragmentSpread (name : Name)
      {ds : List (Directive false)} {ds' : List SchemaReshape.Directive}
      (directives : List.Forall₂ Directive.Becomes ds ds') :
      Becomes (.fragmentSpread name ds) (.fragmentSpread name ds')
  | inlineFragment (condition? : Option Name)
      {ds : List (Directive false)} {ss : List Selection}
      {ds' : List SchemaReshape.Directive} {ss' : List SchemaReshape.Selection}
      (directives : List.Forall₂ Directive.Becomes ds ds')
      (selections : List.Forall₂ Becomes ss ss') :
      Becomes (.inlineFragment condition? ds ss) (.inlineFragment condition? ds' ss')

/-- An operation under its name. -/
structure BecomesOperation (o : Option Name × Operation) (d : OperationDefinition) : Prop where
  kind : d.kind = o.2.kind
  name? : d.name? = o.1
  variableDefinitions :
    List.Forall₂ VariableDefinition.Becomes o.2.variableDefinitions d.variableDefinitions
  directives : List.Forall₂ Directive.Becomes o.2.directives d.directives
  selections : List.Forall₂ Selection.Becomes o.2.selections d.selections

/-- A fragment under its name. -/
structure BecomesFragment (f : Name × Fragment) (d : FragmentDefinition) : Prop where
  name : d.name = f.1
  condition : d.condition = f.2.condition
  directives : List.Forall₂ Directive.Becomes f.2.directives d.directives
  selections : List.Forall₂ Selection.Becomes f.2.selections d.selections

theorem forall₂_iff_map_eq {α β : Type} {R : α → β → Prop} {f : α → β}
    (h : ∀ a b, R a b ↔ f a = b) (as : List α) (bs : List β) :
    List.Forall₂ R as bs ↔ as.map f = bs := by
  have hR : R = fun a b => f a = b := funext₂ fun a b => propext (h a b)
  rw [hR, ← List.forall₂_map_left_iff, List.forall₂_eq_eq_eq]

section Values

variable {constant : Bool}

mutual

theorem Value.becomes_iff : ∀ (v : Value constant) (w : SchemaReshape.Value),
    v.Becomes w ↔ v.toValue = w
  | .number ⟨false, text⟩, w => ⟨by rintro ⟨⟩; rfl, by rintro rfl; exact .int text⟩
  | .number ⟨true, text⟩, w => ⟨by rintro ⟨⟩; rfl, by rintro rfl; exact .float text⟩
  | .var name h, w => by
    rw [toValue]
    exact ⟨by rintro ⟨⟩; rfl, by rintro rfl; exact .var name h⟩
  | .null, w => by
    rw [toValue]
    exact ⟨by rintro ⟨⟩; rfl, by rintro rfl; exact .null⟩
  | .string text, w => by
    rw [toValue]
    exact ⟨by rintro ⟨⟩; rfl, by rintro rfl; exact .string text⟩
  | .boolean value, w => by
    rw [toValue]
    exact ⟨by rintro ⟨⟩; rfl, by rintro rfl; exact .boolean value⟩
  | .binary bytes, w => by
    rw [toValue]
    exact ⟨by rintro ⟨⟩; rfl, by rintro rfl; exact .binary bytes⟩
  | .enum name, w => by
    rw [toValue]
    exact ⟨by rintro ⟨⟩; rfl, by rintro rfl; exact .enum name⟩
  | .list vs, w => by
    rw [toValue]
    constructor
    · rintro ⟨⟩
      rename_i ws h
      rw [(Value.becomes_list_iff vs ws).1 h]
    · rintro rfl
      exact .list ((Value.becomes_list_iff vs _).2 rfl)
  | .object fs, w => by
    rw [toValue]
    constructor
    · rintro ⟨⟩
      rename_i gs hnames h
      rw [(Value.becomes_fields_iff fs gs).1 ⟨hnames, h⟩]
    · rintro rfl
      have h := (Value.becomes_fields_iff fs _).2 rfl
      exact .object h.1 h.2

theorem Value.becomes_list_iff : ∀ (vs : List (Value constant)) (ws : List SchemaReshape.Value),
    List.Forall₂ Value.Becomes vs ws ↔ Value.toValues vs = ws
  | [], ws => by
    rw [List.forall₂_nil_left_iff, Value.toValues, eq_comm]
  | v :: vs, ws => by
    cases ws with
    | nil => simp [Value.toValues]
    | cons w ws =>
      rw [List.forall₂_cons, Value.toValues, List.cons.injEq, Value.becomes_iff v w,
        Value.becomes_list_iff vs ws]

theorem Value.becomes_fields_iff : ∀ (fs : List (Name × Value constant))
    (gs : List (Name × SchemaReshape.Value)),
    fs.map (·.1) = gs.map (·.1) ∧ List.Forall₂ Value.Becomes (fs.map (·.2)) (gs.map (·.2)) ↔
      Value.toFields fs = gs
  | [], gs => by
    cases gs <;> simp [Value.toFields]
  | (name, v) :: fs, gs => by
    cases gs with
    | nil => simp [Value.toFields]
    | cons g gs =>
      obtain ⟨name', w⟩ := g
      simp only [List.map_cons, List.cons.injEq, List.forall₂_cons, Value.toFields, Prod.mk.injEq,
        Value.becomes_iff v w, ← Value.becomes_fields_iff fs gs]
      tauto

end

theorem becomesArgument_iff (a : Name × Value constant) (b : Argument) :
    BecomesArgument a b ↔ toArgument a = b := by
  obtain ⟨name, value⟩ := b
  constructor
  · rintro ⟨rfl, hvalue⟩
    exact congrArg (Argument.mk a.1) ((Value.becomes_iff a.2 value).1 hvalue)
  · intro h
    obtain ⟨rfl, hvalue⟩ := Argument.mk.inj h
    exact ⟨rfl, (Value.becomes_iff a.2 value).2 hvalue⟩

theorem Directive.becomes_iff (d : Directive constant) (d' : SchemaReshape.Directive) :
    d.Becomes d' ↔ d.toDirective = d' := by
  have harguments := forall₂_iff_map_eq becomesArgument_iff d.arguments d'.arguments
  obtain ⟨name, arguments⟩ := d'
  constructor
  · rintro ⟨rfl, h⟩
    exact congrArg (SchemaReshape.Directive.mk d.name) (harguments.1 h)
  · intro h
    obtain ⟨rfl, h₁⟩ := SchemaReshape.Directive.mk.inj h
    exact ⟨rfl, harguments.2 h₁⟩

theorem becomesDirectives_iff (ds : List (Directive constant))
    (ds' : List SchemaReshape.Directive) :
    List.Forall₂ Directive.Becomes ds ds' ↔ ds.map Directive.toDirective = ds' :=
  forall₂_iff_map_eq Directive.becomes_iff ds ds'

end Values

theorem TypeRef.becomes_iff (t : TypeRef) (u : SchemaReshape.TypeRef) :
    t.Becomes u ↔ t.toTypeRef = u := by
  induction t generalizing u with
  | named name nullable =>
    cases nullable with
    | true => exact ⟨by rintro ⟨⟩; rfl, by rintro rfl; exact .named name⟩
    | false => exact ⟨by rintro ⟨⟩; rfl, by rintro rfl; exact .namedNonNull name⟩
  | list inner nullable ih =>
    cases nullable with
    | true =>
      constructor
      · rintro ⟨⟩
        rename_i u h
        exact congrArg SchemaReshape.TypeRef.list ((ih u).1 h)
      · rintro rfl
        exact .list ((ih _).2 rfl)
    | false =>
      constructor
      · rintro ⟨⟩
        rename_i u h
        exact congrArg (fun u => SchemaReshape.TypeRef.nonNull (.list u)) ((ih u).1 h)
      · rintro rfl
        exact .listNonNull ((ih _).2 rfl)

theorem rel_iff_map_eq {α β : Type} {R : α → β → Prop} {f : α → β}
    (h : ∀ a b, R a b ↔ f a = b) (a? : Option α) (b? : Option β) :
    Option.Rel R a? b? ↔ a?.map f = b? := by
  cases a? <;> cases b? <;> simp [h]

theorem VariableDefinition.becomes_iff (v : VariableDefinition)
    (v' : SchemaReshape.VariableDefinition) : v.Becomes v' ↔ v.toDefinition = v' := by
  have htype := TypeRef.becomes_iff v.type v'.type
  have hdefault := rel_iff_map_eq Value.becomes_iff v.default? v'.default
  have hdirectives := becomesDirectives_iff v.directives v'.directives
  obtain ⟨name, type, default, directives⟩ := v'
  constructor
  · rintro ⟨rfl, h₁, h₂, h₃⟩
    rw [toDefinition, htype.1 h₁, hdefault.1 h₂, hdirectives.1 h₃]
  · intro h
    obtain ⟨rfl, h₁, h₂, h₃⟩ := SchemaReshape.VariableDefinition.mk.inj h
    exact ⟨rfl, htype.2 h₁, hdefault.2 h₂, hdirectives.2 h₃⟩

mutual

theorem Selection.becomes_iff : ∀ (s : Selection) (s' : SchemaReshape.Selection),
    s.Becomes s' ↔ s.toSelection = s'
  | .field alias? name arguments directives ss, s' => by
    rw [toSelection]
    constructor
    · rintro ⟨⟩
      rename_i ha hd hs
      rw [(forall₂_iff_map_eq becomesArgument_iff arguments _).1 ha,
        (becomesDirectives_iff directives _).1 hd, (Selection.becomes_scope_iff ss _).1 hs]
    · rintro rfl
      exact .field alias? name ((forall₂_iff_map_eq becomesArgument_iff arguments _).2 rfl)
        ((becomesDirectives_iff directives _).2 rfl) ((Selection.becomes_scope_iff ss _).2 rfl)
  | .fragmentSpread name directives, s' => by
    rw [toSelection]
    constructor
    · rintro ⟨⟩
      rename_i hd
      rw [(becomesDirectives_iff directives _).1 hd]
    · rintro rfl
      exact .fragmentSpread name ((becomesDirectives_iff directives _).2 rfl)
  | .inlineFragment condition? directives ss, s' => by
    rw [toSelection]
    constructor
    · rintro ⟨⟩
      rename_i hd hs
      rw [(becomesDirectives_iff directives _).1 hd, (Selection.becomes_scope_iff ss _).1 hs]
    · rintro rfl
      exact .inlineFragment condition? ((becomesDirectives_iff directives _).2 rfl)
        ((Selection.becomes_scope_iff ss _).2 rfl)

theorem Selection.becomes_scope_iff : ∀ (ss : List Selection) (ss' : List SchemaReshape.Selection),
    List.Forall₂ Selection.Becomes ss ss' ↔ Selection.toScope ss = ss'
  | [], ss' => by
    rw [List.forall₂_nil_left_iff, Selection.toScope, eq_comm]
  | s :: ss, ss' => by
    cases ss' with
    | nil => simp [Selection.toScope]
    | cons s' ss' =>
      rw [List.forall₂_cons, Selection.toScope, List.cons.injEq, Selection.becomes_iff s s',
        Selection.becomes_scope_iff ss ss']

end

theorem becomesOperation_iff (o : Option Name × Operation) (d : OperationDefinition) :
    BecomesOperation o d ↔ o.2.toDefinition o.1 = d := by
  have hvariables := forall₂_iff_map_eq VariableDefinition.becomes_iff o.2.variableDefinitions
    d.variableDefinitions
  have hdirectives := becomesDirectives_iff o.2.directives d.directives
  have hselections := Selection.becomes_scope_iff o.2.selections d.selections
  obtain ⟨kind, name?, variableDefinitions, directives, selections⟩ := d
  constructor
  · rintro ⟨rfl, rfl, h₁, h₂, h₃⟩
    rw [Operation.toDefinition, hvariables.1 h₁, hdirectives.1 h₂, hselections.1 h₃]
  · intro h
    obtain ⟨rfl, rfl, h₁, h₂, h₃⟩ := OperationDefinition.mk.inj h
    exact ⟨rfl, rfl, hvariables.2 h₁, hdirectives.2 h₂, hselections.2 h₃⟩

theorem becomesFragment_iff (f : Name × Fragment) (d : FragmentDefinition) :
    BecomesFragment f d ↔ f.2.toDefinition f.1 = d := by
  have hdirectives := becomesDirectives_iff f.2.directives d.directives
  have hselections := Selection.becomes_scope_iff f.2.selections d.selections
  obtain ⟨name, condition, directives, selections⟩ := d
  constructor
  · rintro ⟨rfl, rfl, h₁, h₂⟩
    rw [Fragment.toDefinition, hdirectives.1 h₁, hselections.1 h₂]
  · intro h
    obtain ⟨rfl, rfl, h₁, h₂⟩ := FragmentDefinition.mk.inj h
    exact ⟨rfl, rfl, hdirectives.2 h₁, hselections.2 h₂⟩

end SchemaReshape.Parsed
