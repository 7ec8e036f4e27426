import Mathlib.Data.List.Basic
import SqlTemplate.Record.Declaration

/-!
# What a declaration says about its fields

A declaration is read item by item: each changes what was read before, until one is at fault. Here
it is taken as a whole. Its faults are listed as they stand in it, and what its items say is put
together, the last one counting where several say the same. The reading ends with the first fault,
and without faults it comes to what was said.
-/

namespace SqlTemplate

/-! ## Readings that end with the first fault -/

namespace DeclarationFault

variable {α β ι σ : Type}

/-- The first of the faults, or the value if there is none. -/
def firstOr (faults : List DeclarationFault) (a : α) : Except DeclarationFault α :=
  match faults with
  | [] => .ok a
  | fault :: _ => .error fault

theorem firstOr_eq_ok_iff {faults : List DeclarationFault} {a b : α} :
    firstOr faults a = .ok b ↔ faults = [] ∧ b = a := by
  cases faults with
  | nil => simp [firstOr, eq_comm]
  | cons fault faults => simp [firstOr]

theorem firstOr_eq_error_iff {faults : List DeclarationFault} {a : α} {fault : DeclarationFault} :
    firstOr faults a = .error fault ↔ faults.head? = some fault := by
  cases faults with
  | nil => simp [firstOr]
  | cons fault' faults => simp [firstOr]

/-- Of two readings the second has faults only if the first has none. -/
theorem firstOr_bind (faults : List DeclarationFault) {a : α} (f : α → Except DeclarationFault β)
    {faults' : List DeclarationFault} {b : β} (hf : f a = firstOr faults' b) :
    (firstOr faults a >>= f) = firstOr (faults ++ faults') b := by
  cases faults with
  | nil => exact hf
  | cons fault faults => rfl

/-- Steps whose faults do not depend on the state are faulty where their items are. -/
theorem foldlM_eq_firstOr {step : σ → ι → Except DeclarationFault σ}
    (faults : ι → List DeclarationFault) (next : σ → ι → σ)
    (hstep : ∀ s i, step s i = firstOr (faults i) (next s i)) (items : List ι) (start : σ) :
    items.foldlM step start = firstOr (items.flatMap faults) (items.foldl next start) := by
  induction items generalizing start with
  | nil => rfl
  | cons item items ih =>
      rw [List.foldlM_cons, hstep, List.flatMap_cons]
      exact firstOr_bind _ (fun s => items.foldlM step s) (ih _)

theorem mapM_eq_firstOr {read : ι → Except DeclarationFault α}
    (faults : ι → List DeclarationFault) (value : ι → α)
    (hread : ∀ i, read i = firstOr (faults i) (value i)) (items : List ι) :
    items.mapM read = firstOr (items.flatMap faults) (items.map value) := by
  induction items with
  | nil => rfl
  | cons item items ih =>
      have hrest : (do let rest ← items.mapM read; pure (value item :: rest)) =
          firstOr (items.flatMap faults) (value item :: items.map value) := by
        rw [ih]
        cases items.flatMap faults <;> rfl
      rw [List.mapM_cons, hread, List.flatMap_cons]
      exact firstOr_bind _ (fun a => do let rest ← items.mapM read; pure (a :: rest)) hrest

end DeclarationFault

open DeclarationFault (firstOr)

/-! ## Attributes -/

namespace DeclaredAttribute

/-- The items of the attributes that are read. -/
def itemsOf (attributes : List DeclaredAttribute) : List AttributeItem :=
  (attributes.filter fun a => a.path == "stencil").flatMap fun own => own.items.getD []

/-- The faults of the attributes that are read: those of their items, and `bare` for each that has
no items. -/
def faultsOf (bare : DeclarationFault) (faults : AttributeItem → List DeclarationFault)
    (attributes : List DeclaredAttribute) : List DeclarationFault :=
  (attributes.filter fun a => a.path == "stencil").flatMap fun own =>
    match own.items with
    | none => [bare]
    | some items => items.flatMap faults

theorem readItems_eq {σ : Type} {bare : DeclarationFault}
    {item : σ → AttributeItem → Except DeclarationFault σ}
    (faults : AttributeItem → List DeclarationFault) (next : σ → AttributeItem → σ)
    (hitem : ∀ s i, item s i = firstOr (faults i) (next s i)) (start : σ)
    (attributes : List DeclaredAttribute) :
    readItems bare item start attributes =
      firstOr (faultsOf bare faults attributes) ((itemsOf attributes).foldl next start) := by
  rw [itemsOf, List.foldl_flatMap]
  refine DeclarationFault.foldlM_eq_firstOr _ _ (fun s own => ?_) _ start
  cases own.items with
  | none => rfl
  | some items => exact DeclarationFault.foldlM_eq_firstOr faults next hitem items s

end DeclaredAttribute

open DeclaredAttribute (itemsOf faultsOf)

namespace AttributeItem

/-- The text that an item gives under a key. -/
def textUnder? (key : String) (item : AttributeItem) : Option String :=
  match item.value with
  | some (.text text) => if item.key = key then some text else none
  | _ => none

theorem getLast?_filterMap_cons {α : Type} (given? : AttributeItem → Option α)
    (item : AttributeItem) (items : List AttributeItem) :
    ((item :: items).filterMap given?).getLast? =
      (items.filterMap given?).getLast?.or (given? item) := by
  cases hgiven : given? item with
  | none => rw [List.filterMap_cons_none hgiven, Option.or_none]
  | some a =>
      rw [List.filterMap_cons_some hgiven, List.getLast?_cons]
      cases (items.filterMap given?).getLast? <;> rfl

/-- Of the values that items give the last one counts. -/
theorem foldl_or {α : Type} (given? : AttributeItem → Option α) (items : List AttributeItem)
    (start : Option α) :
    items.foldl (fun a item => (given? item).or a) start =
      (items.filterMap given?).getLast?.or start := by
  induction items generalizing start with
  | nil => rfl
  | cons item items ih => rw [List.foldl_cons, ih, getLast?_filterMap_cons, Option.or_assoc]

/-! ## Fields -/

/-- The faults of an item on a field: it has a text under `name`, nothing under `skip` and
`nested`, and no other key. -/
def fieldFaults (item : AttributeItem) : List DeclarationFault :=
  if item.key = "name" then
    match item.value with
    | some (.text _) => []
    | _ => [.nameNotText]
  else if item.key = "skip" ∨ item.key = "nested" then
    if item.value = none then [] else [.valueNotAllowed item.key]
  else
    [.unknownOnField (DeclaredAttribute.spacedKey item.key)]

end AttributeItem

/-- The rule with what one more item says. -/
def FieldRule.withItem (rule : FieldRule) (item : AttributeItem) : FieldRule where
  identifier := rule.identifier
  name := (item.textUnder? "name").getD rule.name
  skipped := item.key == "skip" || rule.skipped
  nested := item.key == "nested" || rule.nested

namespace DeclaredField

theorem readItem_eq (rule : FieldRule) (item : AttributeItem) :
    readItem rule item = firstOr item.fieldFaults (rule.withItem item) := by
  obtain ⟨key, value⟩ := item
  by_cases hname : key = "name"
  · subst hname
    rcases value with _ | text | number | truth <;> rfl
  by_cases hskip : key = "skip"
  · subst hskip
    cases value <;> rfl
  by_cases hnested : key = "nested"
  · subst hnested
    cases value <;> rfl
  rw [readItem, AttributeItem.fieldFaults, if_neg hname, if_neg (not_or.mpr ⟨hskip, hnested⟩)]
  split
  · contradiction
  · contradiction
  · contradiction
  · rfl

/-- What the items of an attribute on a field say, one after the other, is what they say together:
the last name counts, and one item is enough to leave a field out or to nest it. -/
theorem foldl_withItem (items : List AttributeItem) (rule : FieldRule) :
    items.foldl FieldRule.withItem rule =
      { identifier := rule.identifier
        name := (items.filterMap (AttributeItem.textUnder? "name")).getLast?.getD rule.name
        skipped := items.any (·.key == "skip") || rule.skipped
        nested := items.any (·.key == "nested") || rule.nested } := by
  induction items generalizing rule with
  | nil => rfl
  | cons item items ih =>
      rw [List.foldl_cons, ih, AttributeItem.getLast?_filterMap_cons, Option.getD_or, List.any_cons,
        List.any_cons, Bool.or_assoc, Bool.or_assoc, Bool.or_left_comm (item.key == "skip"),
        Bool.or_left_comm (item.key == "nested")]
      rfl

/-- The items on a field. -/
def items (field : DeclaredField) : List AttributeItem :=
  itemsOf field.attributes

/-- What the declaration says about a field of a record with a style. -/
def said (style : Option CaseStyle) (field : DeclaredField) : FieldRule where
  identifier := field.identifier
  name := (field.items.filterMap (AttributeItem.textUnder? "name")).getLast?.getD
    (defaultName style field.identifier)
  skipped := field.items.any (·.key == "skip")
  nested := field.items.any (·.key == "nested")

/-- A field without attributes is a value under its own name in the style of the record. -/
theorem said_bare (style : Option CaseStyle) (identifier : String) :
    said style ⟨identifier, []⟩ = ⟨identifier, defaultName style identifier, false, false⟩ :=
  rfl

/-- A field that is only said to be nested keeps its name as well. -/
theorem said_nested (style : Option CaseStyle) (identifier : String) :
    said style ⟨identifier, [.own [⟨"nested", none⟩]]⟩ =
      ⟨identifier, defaultName style identifier, false, true⟩ :=
  rfl

/-- The faults of the attributes on a field. -/
def attributeFaults (field : DeclaredField) : List DeclarationFault :=
  faultsOf .bareOnField AttributeItem.fieldFaults field.attributes

/-- The faults of a field: those of its attributes, and that it has no name. -/
def faults (style : Option CaseStyle) (field : DeclaredField) : List DeclarationFault :=
  field.attributeFaults ++
    if (field.said style).name = "" then [.emptyName field.identifier] else []

/-- The rule for a field is what is said about it, unless it has faults. -/
theorem rule_eq (style : Option CaseStyle) (field : DeclaredField) :
    rule style field = firstOr (field.faults style) (field.said style) := by
  have hsaid : field.items.foldl FieldRule.withItem
      ⟨field.identifier, defaultName style field.identifier, false, false⟩ = field.said style := by
    rw [foldl_withItem, Bool.or_false, Bool.or_false]
    rfl
  rw [rule, DeclaredAttribute.readItems_eq _ _ readItem_eq]
  refine DeclarationFault.firstOr_bind _ _ ?_
  rw [show itemsOf field.attributes = field.items from rfl, hsaid]
  by_cases hname : (field.said style).name = ""
  · rw [if_pos hname, if_pos hname]
    rfl
  · rw [if_neg hname, if_neg hname]
    rfl

theorem faults_eq_nil_iff {style : Option CaseStyle} {field : DeclaredField} :
    field.faults style = [] ↔ field.attributeFaults = [] ∧ (field.said style).name ≠ "" := by
  rw [faults, List.append_eq_nil_iff]
  by_cases hname : (field.said style).name = "" <;> simp [hname]

end DeclaredField

/-! ## Records -/

/-- The faults of an item on a record: it names a style. -/
def AttributeItem.recordFaults (item : AttributeItem) : List DeclarationFault :=
  if item.key = "rename_all" then
    match item.value with
    | some (.text name) => if CaseStyle.ofName? name = none then [.unknownStyle name] else []
    | _ => [.styleNotText]
  else
    [.unknownOnRecord (DeclaredAttribute.singleWord item.key)]

/-- The style that an item names. -/
def AttributeItem.style? (item : AttributeItem) : Option CaseStyle :=
  (item.textUnder? "rename_all").bind CaseStyle.ofName?

namespace DeclaredRecord

theorem readStyle_eq (style : Option CaseStyle) (item : AttributeItem) :
    readStyle style item = firstOr item.recordFaults (item.style?.or style) := by
  obtain ⟨key, value⟩ := item
  by_cases hkey : key = "rename_all"
  · subst hkey
    rcases value with _ | text | number | truth
    · rfl
    · have hstyle : AttributeItem.style? ⟨"rename_all", some (.text text)⟩ =
          CaseStyle.ofName? text := rfl
      rw [hstyle, readStyle, AttributeItem.recordFaults, if_pos rfl, if_pos rfl]
      cases hname : CaseStyle.ofName? text <;> simp [hname, firstOr]
    · rfl
    · rfl
  · rw [readStyle, AttributeItem.recordFaults, if_neg hkey, if_neg hkey]
    rfl

/-- The style that a declaration says. -/
def saidStyle (r : DeclaredRecord) : Option CaseStyle :=
  ((itemsOf r.attributes).filterMap AttributeItem.style?).getLast?

/-- The faults of the attributes on a record. -/
def attributeFaults (r : DeclaredRecord) : List DeclarationFault :=
  faultsOf .bareOnRecord AttributeItem.recordFaults r.attributes

/-- The faults of a declaration, those of the record in front. -/
def faults (r : DeclaredRecord) : List DeclarationFault :=
  r.attributeFaults ++ r.fields.flatMap (DeclaredField.faults r.saidStyle)

theorem style_eq (r : DeclaredRecord) : r.style = firstOr r.attributeFaults r.saidStyle := by
  rw [style, DeclaredAttribute.readItems_eq _ _ readStyle_eq, AttributeItem.foldl_or,
    Option.or_none]
  rfl

/-- Reading a declaration ends with its first fault, and without faults it gives every field the
rule that is said about it. -/
theorem rules_eq (r : DeclaredRecord) :
    r.rules = firstOr r.faults (r.fields.map (DeclaredField.said r.saidStyle)) := by
  rw [rules, style_eq]
  exact DeclarationFault.firstOr_bind _ (fun style => r.fields.mapM (DeclaredField.rule style))
    (DeclarationFault.mapM_eq_firstOr _ _ (DeclaredField.rule_eq r.saidStyle) r.fields)

/-- A declaration can be read if its attributes have no faults and every field has a name. -/
theorem rules_eq_ok_iff {r : DeclaredRecord} {rules : List FieldRule} :
    r.rules = .ok rules ↔
      r.attributeFaults = [] ∧ (∀ field ∈ r.fields, field.attributeFaults = []) ∧
        (∀ rule ∈ rules, rule.name ≠ "") ∧
        rules = r.fields.map (DeclaredField.said r.saidStyle) := by
  rw [rules_eq, DeclarationFault.firstOr_eq_ok_iff, faults, List.append_eq_nil_iff,
    List.flatMap_eq_nil_iff]
  simp only [DeclaredField.faults_eq_nil_iff, forall_and, and_assoc]
  refine and_congr_right fun _ => and_congr_right fun _ => and_congr_left ?_
  rintro rfl
  rw [List.forall_mem_map]

/-- A declaration that cannot be read is refused for the first of its faults. -/
theorem rules_eq_error_iff {r : DeclaredRecord} {fault : DeclarationFault} :
    r.rules = .error fault ↔ r.faults.head? = some fault := by
  rw [rules_eq, DeclarationFault.firstOr_eq_error_iff]

end DeclaredRecord

end SqlTemplate
