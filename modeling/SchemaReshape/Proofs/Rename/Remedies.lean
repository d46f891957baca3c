import Mathlib.Data.List.Count
import Mathlib.Logic.Function.Iterate
import SchemaReshape.Proofs.Rename.Guards

/-!
# Remedies for leftovers

A leftover asks for one more suppression in its message, unless it is left at a directive. A round
follows all of these (`Schema.remedied`). New leftovers can come up in a round, but it only ever
suppresses parts of the schema that were not suppressed before, so that in the end there is nothing
more to follow; and what is gone then is gone under every suppression that includes the first one
and leaves nothing behind (`Schema.remedied_least`).
-/

namespace SchemaReshape

inductive Element where
  | type (name : Name)
  | field (owner name : Name)
  deriving DecidableEq

namespace Suppressions

def has (p : Suppressions) : Element → Bool
  | .type name => p.hasType name
  | .field owner name => p.hasField owner name

def add (p : Suppressions) : Element → Suppressions
  | .type name => p.addType name
  | .field owner name => p.addField owner name

instance : HasSubset Suppressions := ⟨fun p q => ∀ e, p.has e = true → q.has e = true⟩

instance : HasSSubset Suppressions := ⟨fun p q => p ⊆ q ∧ ¬ q ⊆ p⟩

variable {p q : Suppressions} {e e' : Element}

theorem has_add_iff : (p.add e).has e' = true ↔ e' = e ∨ p.has e' = true := by
  cases e with
  | type n =>
    cases e' with
    | type m => simpa [has, add] using hasType_addType
    | field owner m => simp [has, add]
  | field owner n =>
    cases e' with
    | type m => simp [has, add]
    | field owner' m => simpa [has, add] using hasField_addField

theorem keepsField_eq_false_iff {queryType type field : Name} :
    p.keepsField queryType type field = false ↔
      p.hasField type field = true ∨ type = queryType ∧ p.hasType field = true := by
  simp only [keepsField, Bool.and_eq_false_iff, Bool.not_eq_false', Bool.and_eq_true, beq_iff_eq]

theorem has_foldl_add_iff {es : List Element} :
    (es.foldl add p).has e = true ↔ e ∈ es ∨ p.has e = true := by
  induction es generalizing p with
  | nil => simp
  | cons e' es ih => rw [List.foldl_cons, ih, has_add_iff, List.mem_cons, or_left_comm, or_assoc]

end Suppressions

namespace Leftover

/-- What the message asks to suppress as well. A directive cannot be suppressed. -/
def remedy? : Leftover → Option Element
  | typeWithoutFields type => some (.type type)
  | unionWithoutMembers union => some (.type union)
  | danglingField type field _ => some (.field type field)
  | danglingFieldArgument type field _ _ => some (.field type field)
  | danglingDirectiveArgument .. => none

def isOfDirective : Leftover → Bool
  | danglingDirectiveArgument .. => true
  | typeWithoutFields _ | unionWithoutMembers _ => false
  | danglingField .. | danglingFieldArgument .. => false

theorem remedy?_eq_none_iff {l : Leftover} : l.remedy? = none ↔ l.isOfDirective = true := by
  cases l <;> simp [remedy?, isOfDirective]

end Leftover

theorem countP_lt_countP {α : Type} {test test' : α → Bool} {xs : List α}
    (h : ∀ x, test x = true → test' x = true) {x : α} (hx : x ∈ xs) (hnot : test x = false)
    (hpass : test' x = true) : xs.countP test < xs.countP test' := by
  obtain ⟨as, bs, rfl⟩ := List.append_of_mem hx
  have has : as.countP test ≤ as.countP test' := List.countP_mono_left fun y _ => h y
  have hbs : bs.countP test ≤ bs.countP test' := List.countP_mono_left fun y _ => h y
  rw [List.countP_append, List.countP_append, List.countP_cons_of_neg (by rw [hnot]; exact nofun),
    List.countP_cons_of_pos hpass]
  omega

section Parts

variable {p : Suppressions} {e : Element}

theorem FieldDefinition.mem_remedies_iff {field : FieldDefinition} {owner : Name} :
    e ∈ (field.leftovers p owner).filterMap Leftover.remedy? ↔
      (∃ n ∈ field.references, p.hasType n = true) ∧ e = .field owner field.name := by
  have hremedy : ∀ l ∈ field.leftovers p owner, l.remedy? = some (.field owner field.name) := by
    intro l hl
    rw [leftovers, List.mem_append] at hl
    rcases hl with hl | hl
    · split at hl
      · rw [List.mem_singleton.1 hl, Leftover.remedy?]
      · exact absurd hl List.not_mem_nil
    · obtain ⟨a, -, rfl⟩ := List.mem_map.1 hl
      rw [Leftover.remedy?]
  have hsome : (∃ n ∈ field.references, p.hasType n = true) ↔ ∃ l, l ∈ field.leftovers p owner := by
    rw [← List.length_pos_iff_exists_mem, List.length_pos_iff, Ne, Schema.fieldLeftovers_eq_nil_iff]
    simp
  rw [List.mem_filterMap, hsome]
  constructor
  · rintro ⟨l, hl, he⟩
    rw [hremedy l hl] at he
    exact ⟨⟨l, hl⟩, (Option.some.inj he).symm⟩
  · rintro ⟨⟨l, hl⟩, rfl⟩
    exact ⟨l, hl, hremedy l hl⟩

theorem DirectiveDefinition.remedies_eq_nil {d : DirectiveDefinition} :
    (d.leftovers p).filterMap Leftover.remedy? = [] := by
  simp [leftovers, Leftover.remedy?]

end Parts

namespace Schema

variable (s : Schema)

/-- What the leftovers of a suppression ask to suppress as well. -/
def remedies (p : Suppressions) : List Element := (s.leftovers p).filterMap Leftover.remedy?

def remedied (p : Suppressions) : Suppressions := (s.remedies p).foldl Suppressions.add p

def fieldCount : Nat := (s.types.flatMap (·.fields)).length

def elements : List Element :=
  s.types.map (.type ·.name) ++ s.types.flatMap fun d => d.fields.map (.field d.name ·.name)

/-- What does not survive the suppression. -/
def IsGone (p : Suppressions) : Element → Prop
  | .type name => p.hasType name = true
  | .field owner name => p.hasType owner = true ∨ p.keepsField s.queryType owner name = false

variable {s} {p q : Suppressions} {e : Element}

/-- The remedies are the types that lose all that is in them and the fields that refer to suppressed
types. -/
theorem mem_remedies_iff :
    e ∈ s.remedies p ↔
      (∃ d ∈ s.keptTypes p, s.losesAllFields p d = true ∧ e = .type d.name) ∨
      (∃ d ∈ s.keptTypes p, d.losesAllMembers p = true ∧ e = .type d.name) ∨
      ∃ d ∈ s.keptTypes p, ∃ field ∈ s.keptFields p d,
        (∃ n ∈ field.references, p.hasType n = true) ∧ e = .field d.name field.name := by
  simp only [remedies, leftovers, List.filterMap_append, List.filterMap_flatMap, List.mem_append,
    List.mem_flatMap, FieldDefinition.mem_remedies_iff, DirectiveDefinition.remedies_eq_nil]
  simp [Leftover.remedy?, and_assoc, or_assoc, eq_comm (b := e)]

theorem length_elements : s.elements.length = s.types.length + s.fieldCount := by
  simp [elements, fieldCount, List.length_flatMap]

/-- A remedy suppresses something of the schema that was not suppressed before. -/
theorem mem_elements_of_mem_remedies (h : e ∈ s.remedies p) : e ∈ s.elements ∧ p.has e = false := by
  have htype : ∀ d ∈ s.keptTypes p,
      .type d.name ∈ s.elements ∧ p.has (.type d.name) = false := by
    intro d hd
    obtain ⟨hmem, hkept⟩ := mem_keptTypes.1 hd
    exact ⟨List.mem_append_left _ (List.mem_map_of_mem hmem), hkept⟩
  rcases mem_remedies_iff.1 h with
    ⟨d, hd, -, rfl⟩ | ⟨d, hd, -, rfl⟩ | ⟨d, hd, field, hfield, -, rfl⟩
  · exact htype d hd
  · exact htype d hd
  · obtain ⟨hmem, -⟩ := mem_keptTypes.1 hd
    obtain ⟨hfield, hlive⟩ := List.mem_filter.1 hfield
    have helement : Element.field d.name field.name ∈ s.elements := List.mem_append_right _
      (List.mem_flatMap.2 ⟨d, hmem, List.mem_map_of_mem hfield⟩)
    refine ⟨helement, Bool.eq_false_iff.2 fun hfield => ?_⟩
    rw [Suppressions.keepsField_eq_false_iff.2 (.inl hfield)] at hlive
    exact nomatch hlive

section Round

theorem has_remedied_iff : (s.remedied p).has e = true ↔ e ∈ s.remedies p ∨ p.has e = true :=
  Suppressions.has_foldl_add_iff

theorem subset_remedied : p ⊆ s.remedied p := fun _ he => has_remedied_iff.2 (.inr he)

/-- A round with a remedy suppresses more than before. -/
theorem ssubset_remedied (h : e ∈ s.remedies p) : p ⊂ s.remedied p := by
  refine ⟨subset_remedied, fun hsub => ?_⟩
  have hnot := (mem_elements_of_mem_remedies h).2
  rw [hsub e (has_remedied_iff.2 (.inl h))] at hnot
  exact nomatch hnot

theorem remedied_eq_self (h : s.remedies p = []) : s.remedied p = p := by
  rw [remedied, h, List.foldl_nil]

theorem remedies_eq_nil_iff :
    s.remedies p = [] ↔ ∀ l ∈ s.leftovers p, l.isOfDirective = true := by
  simp only [remedies, List.filterMap_eq_nil_iff, Leftover.remedy?_eq_none_iff]

end Round

section Run

def suppressedCount (s : Schema) (p : Suppressions) : Nat := s.elements.countP p.has

theorem suppressedCount_lt_remedied (h : e ∈ s.remedies p) :
    s.suppressedCount p < s.suppressedCount (s.remedied p) := by
  obtain ⟨hmem, hnot⟩ := mem_elements_of_mem_remedies h
  exact countP_lt_countP subset_remedied hmem hnot (has_remedied_iff.2 (.inl h))

theorem suppressedCount_lt (h : e ∈ s.remedies p) :
    s.suppressedCount p < s.types.length + s.fieldCount := by
  obtain ⟨hmem, hnot⟩ := mem_elements_of_mem_remedies h
  rw [← length_elements, suppressedCount, List.countP_lt_length_iff]
  exact ⟨e, hmem, hnot⟩

/-- Every round suppresses something, until none has a remedy. -/
theorem remedies_eq_nil_or_le_suppressedCount (n : Nat) :
    s.remedies (s.remedied^[n] p) = [] ∨ n ≤ s.suppressedCount (s.remedied^[n] p) := by
  induction n with
  | zero => exact .inr (Nat.zero_le _)
  | succ n ih =>
    rw [Function.iterate_succ_apply']
    by_cases hnil : s.remedies (s.remedied^[n] p) = []
    · rw [remedied_eq_self hnil]
      exact .inl hnil
    · obtain ⟨e, he⟩ := List.exists_mem_of_ne_nil _ hnil
      have hlt := suppressedCount_lt_remedied he
      have hle := ih.resolve_left hnil
      exact .inr (by omega)

theorem remedies_iterate_eq_nil {n : Nat} (h : s.types.length + s.fieldCount ≤ n) :
    s.remedies (s.remedied^[n] p) = [] := by
  rcases remedies_eq_nil_or_le_suppressedCount n with hnil | hle
  · exact hnil
  · refine List.eq_nil_iff_forall_not_mem.2 fun e he => ?_
    have hlt := suppressedCount_lt he
    omega

end Run

section Least

theorem isGone_of_has (h : p.has e = true) : s.IsGone p e := by
  cases e with
  | type name => exact h
  | field owner name => exact .inr (Suppressions.keepsField_eq_false_iff.2 (.inl h))

theorem isGone_of_forall_has (h : ∀ e, p.has e = true → s.IsGone q e) (he : s.IsGone p e) :
    s.IsGone q e := by
  cases e with
  | type name => exact h (.type name) he
  | field owner name =>
    rcases he with howner | hlive
    · exact .inl (h (.type owner) howner)
    · rcases Suppressions.keepsField_eq_false_iff.1 hlive with hfield | ⟨hquery, htype⟩
      · exact h (.field owner name) hfield
      · exact .inr (Suppressions.keepsField_eq_false_iff.2 (.inr ⟨hquery, h (.type name) htype⟩))

section Gone

variable (hclean : q.LeaveNothing s) (hgone : ∀ e, s.IsGone p e → s.IsGone q e)

include hgone

theorem hasType_eq_false_of_isGone {n : Name} (h : q.hasType n = false) : p.hasType n = false := by
  rw [← Bool.not_eq_true] at h ⊢
  exact fun hn => h (hgone (.type n) hn)

/-- On a type that stays, fields stay only if they did so where less is gone. -/
theorem keptFields_subset_of_isGone {d : TypeDefinition} (hd : q.hasType d.name = false) :
    s.keptFields q d ⊆ s.keptFields p d := by
  intro field hfield
  obtain ⟨hmem, hlive⟩ := List.mem_filter.1 hfield
  refine List.mem_filter.2 ⟨hmem, ?_⟩
  by_contra hnot
  rcases hgone (.field d.name field.name) (.inr (Bool.eq_false_iff.2 hnot)) with howner | hdead
  · rw [hd] at howner
    exact nomatch howner
  · rw [hlive] at hdead
    exact nomatch hdead

include hclean

theorem losesAllFields_eq_false_of_isGone {d : TypeDefinition} (hd : d ∈ s.types)
    (hkept : q.hasType d.name = false) : s.losesAllFields p d = false := by
  refine losesAllFields_eq_false_iff.2 fun hne hnil => hclean.fields d hd hkept hne ?_
  exact List.subset_nil.1 (hnil ▸ keptFields_subset_of_isGone hgone hkept)

theorem losesAllMembers_eq_false_of_isGone {d : TypeDefinition} (hd : d ∈ s.types)
    (hkept : q.hasType d.name = false) : d.losesAllMembers p = false := by
  refine losesAllMembers_eq_false_iff.2 fun members hbody => ?_
  obtain ⟨n, hn, hstays⟩ := hclean.members d hd hkept members hbody
  exact ⟨n, hn, hasType_eq_false_of_isGone hgone hstays⟩

/-- A remedy is forced: without it the other suppression would leave something behind. -/
theorem isGone_of_mem_remedies (he : e ∈ s.remedies p) : s.IsGone q e := by
  by_contra hnot
  rcases mem_remedies_iff.1 he with
    ⟨d, hd, hloses, rfl⟩ | ⟨d, hd, hloses, rfl⟩ | ⟨d, hd, field, hfield, ⟨n, hn, hsuppressed⟩, rfl⟩
  · have hkept : q.hasType d.name = false := Bool.eq_false_iff.2 hnot
    have hfields := losesAllFields_eq_false_of_isGone hclean hgone (mem_keptTypes.1 hd).1 hkept
    exact Bool.false_ne_true (hfields.symm.trans hloses)
  · have hkept : q.hasType d.name = false := Bool.eq_false_iff.2 hnot
    have hmembers := losesAllMembers_eq_false_of_isGone hclean hgone (mem_keptTypes.1 hd).1 hkept
    exact Bool.false_ne_true (hmembers.symm.trans hloses)
  · obtain ⟨howner, hlive⟩ := not_or.1 hnot
    have hkept : q.hasType d.name = false := Bool.eq_false_iff.2 howner
    have hfield' : field ∈ s.keptFields q d :=
      List.mem_filter.2 ⟨(List.mem_filter.1 hfield).1, eq_true_of_ne_false hlive⟩
    have hstays := hclean.references d (mem_keptTypes.1 hd).1 hkept field hfield' n hn
    have hstays := hasType_eq_false_of_isGone hgone hstays
    exact Bool.false_ne_true (hstays.symm.trans hsuppressed)

/-- What a round makes disappear is gone under the other suppression, too. -/
theorem isGone_of_isGone_remedied (he : s.IsGone (s.remedied p) e) : s.IsGone q e := by
  refine isGone_of_forall_has (fun e he => ?_) he
  rcases has_remedied_iff.1 he with hremedy | hold
  · exact isGone_of_mem_remedies hclean hgone hremedy
  · exact hgone e (isGone_of_has hold)

end Gone

theorem isGone_of_isGone_iterate (hclean : q.LeaveNothing s) (hsub : p ⊆ q) (n : Nat) :
    ∀ e, s.IsGone (s.remedied^[n] p) e → s.IsGone q e := by
  induction n with
  | zero =>
    intro e he
    exact isGone_of_forall_has (fun e he => isGone_of_has (hsub e he)) he
  | succ n ih =>
    intro e he
    rw [Function.iterate_succ_apply'] at he
    exact isGone_of_isGone_remedied hclean ih he

theorem subset_iterate (n : Nat) : p ⊆ s.remedied^[n] p := by
  induction n with
  | zero => exact fun _ he => he
  | succ n ih =>
    intro e he
    rw [Function.iterate_succ_apply']
    exact subset_remedied e (ih e he)

theorem leftovers_eq_nil_iff_remedies :
    s.leftovers p = [] ↔
      s.remedies p = [] ∧ ∀ d ∈ s.directives, ∀ n ∈ d.references, p.hasType n = false := by
  constructor
  · intro hnil
    refine ⟨?_, (leftovers_eq_nil_iff.1 hnil).directives⟩
    rw [remedies, hnil, List.filterMap_nil]
  · rintro ⟨hnil, hdirectives⟩
    have hnone : ∀ e, e ∉ s.remedies p := List.eq_nil_iff_forall_not_mem.1 hnil
    refine leftovers_eq_nil_iff.2 ⟨fun d hd hkept => ?_, fun d hd hkept => ?_,
      fun d hd hkept field hfield n hn => ?_, hdirectives⟩
    · refine losesAllFields_eq_false_iff.1 (Bool.eq_false_iff.2 fun hloses => ?_)
      exact hnone _ (mem_remedies_iff.2 (.inl ⟨d, mem_keptTypes.2 ⟨hd, hkept⟩, hloses, rfl⟩))
    · refine losesAllMembers_eq_false_iff.1 (Bool.eq_false_iff.2 fun hloses => ?_)
      exact hnone _ (mem_remedies_iff.2 (.inr (.inl ⟨d, mem_keptTypes.2 ⟨hd, hkept⟩, hloses, rfl⟩)))
    · refine Bool.eq_false_iff.2 fun hsuppressed => ?_
      exact hnone _ (mem_remedies_iff.2
        (.inr (.inr ⟨d, mem_keptTypes.2 ⟨hd, hkept⟩, field, hfield, ⟨n, hn, hsuppressed⟩, rfl⟩)))

/-- The rounds end with nothing left behind exactly if some larger suppression leaves nothing. -/
theorem leftovers_iterate_eq_nil_iff {n : Nat} (hn : s.types.length + s.fieldCount ≤ n) :
    s.leftovers (s.remedied^[n] p) = [] ↔ ∃ q, p ⊆ q ∧ s.leftovers q = [] := by
  constructor
  · intro hnil
    exact ⟨_, subset_iterate n, hnil⟩
  · rintro ⟨q, hsub, hclean⟩
    have hclean := leftovers_eq_nil_iff.1 hclean
    have hgone := isGone_of_isGone_iterate hclean hsub n
    refine leftovers_eq_nil_iff_remedies.2 ⟨remedies_iterate_eq_nil hn, fun d hd m hm => ?_⟩
    exact hasType_eq_false_of_isGone hgone (hclean.directives d hd m hm)

end Least

/-- Rounds suppress more and more as long as there is a leftover that is not left at a directive.
This comes to an end within as many rounds as the schema has types and fields, and what is gone then
is gone under every suppression that includes the first one and leaves nothing behind. -/
theorem remedied_least (s : Schema) (p : Suppressions) :
    (∀ n, ∀ l ∈ s.leftovers (s.remedied^[n] p), l.isOfDirective = false →
      s.remedied^[n] p ⊂ s.remedied^[n + 1] p) ∧
    (∀ n, s.types.length + s.fieldCount ≤ n → ∀ l ∈ s.leftovers (s.remedied^[n] p),
      l.isOfDirective = true) ∧
    ∀ n q, p ⊆ q → s.leftovers q = [] → ∀ e, s.IsGone (s.remedied^[n] p) e → s.IsGone q e := by
  refine ⟨fun n l hl hnot => ?_, fun n hn => ?_, fun n q hsub hclean => ?_⟩
  · have hne : s.remedies (s.remedied^[n] p) ≠ [] := by
      intro hnil
      rw [remedies_eq_nil_iff.1 hnil l hl] at hnot
      exact nomatch hnot
    obtain ⟨e, he⟩ := List.exists_mem_of_ne_nil _ hne
    rw [Function.iterate_succ_apply']
    exact ssubset_remedied he
  · exact remedies_eq_nil_iff.1 (remedies_iterate_eq_nil hn)
  · exact isGone_of_isGone_iterate (leftovers_eq_nil_iff.1 hclean) hsub n

end Schema

namespace Sample

/-- Cats and dogs. The union of both goes away in a first round, and in a second one the field that
leads to it. -/
def noPets : Suppressions := [.type "Cat", .type "Dog"].foldl Suppressions.add ∅

def noPetsNorKinds : Suppressions :=
  [.type "Pet", .field "Person" "cat", .field "Person" "pet", .type "Kind"].foldl Suppressions.add
    noPets

theorem remedied_noPets : ∃ s l, pets.supportedSchema = .ok s ∧
    (l ∈ s.leftovers (s.remedied^[1] noPets) ∧ l.isOfDirective = false ∧
      s.remedied^[1] noPets ⊂ s.remedied^[2] noPets) ∧
    (∀ l ∈ s.leftovers (s.remedied^[s.types.length + s.fieldCount] noPets),
      l.isOfDirective = true) ∧
    (noPets ⊆ noPetsNorKinds ∧ s.leftovers noPetsNorKinds = [] ∧
      ∀ e, s.IsGone (s.remedied^[2] noPets) e → s.IsGone noPetsNorKinds e) := by
  have hsub : noPets ⊆ noPetsNorKinds := fun e he => Suppressions.has_foldl_add_iff.2 (.inr he)
  have hpets : ∃ s, pets.supportedSchema = .ok s ∧ s.leftovers noPetsNorKinds = [] ∧
      .danglingField "Person" "pet" "Pet" ∈ s.leftovers (s.remedied^[1] noPets) :=
    ⟨_, rfl, by decide, by decide⟩
  obtain ⟨s, hs, hclean, hleftover⟩ := hpets
  obtain ⟨hgrows, hends, hleast⟩ := Schema.remedied_least s noPets
  have hround := hgrows 1 _ hleftover rfl
  exact ⟨s, _, hs, ⟨hleftover, rfl, hround⟩, hends _ (Nat.le_refl _), hsub, hclean,
    hleast 2 _ hsub hclean⟩

end Sample

end SchemaReshape
