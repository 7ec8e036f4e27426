import Mathlib.Data.List.Basic
import SqlTemplate.Statement

/-!
# Joined texts

A separator is put in front of a text only if the one before it is not empty. So the separators of
`Text.joined` stand between fewer texts than there are: those that are not empty, and the last one.
This is what an attribute for a list of texts holds. Each empty text in front of the last one costs
a separator, so the separator stands between any two texts only when there is none.
-/

namespace SqlTemplate

namespace Text

/-- The texts between which separators stand: those that are not empty, and the last one. -/
def separated (items : List String) : List String :=
  items.dropLast.filter (· ≠ "") ++ items.getLast?.toList

theorem separated_cons {item : String} {rest : List String} (hrest : rest ≠ []) :
    separated (item :: rest) = (if item = "" then [] else [item]) ++ separated rest := by
  obtain ⟨next, rest, rfl⟩ := List.exists_cons_of_ne_nil hrest
  rw [separated, List.dropLast_cons_cons, List.getLast?_cons_cons, List.filter_cons, separated]
  by_cases hitem : item = "" <;> simp [hitem]

theorem separated_ne_nil {items : List String} (hitems : items ≠ []) : separated items ≠ [] := by
  obtain ⟨last, hlast⟩ := Option.ne_none_iff_exists'.mp (mt List.getLast?_eq_none_iff.mp hitems)
  rw [separated, hlast]
  exact List.append_ne_nil_of_right_ne_nil _ (List.cons_ne_nil _ _)

theorem separated_eq_self {items : List String} (hitems : "" ∉ items.dropLast) :
    separated items = items := by
  have hkept : items.dropLast.filter (· ≠ "") = items.dropLast :=
    List.filter_eq_self.mpr fun item hitem => decide_eq_true (ne_of_mem_of_not_mem hitem hitems)
  rw [separated, hkept]
  cases hlast : items.getLast? with
  | none => rw [List.getLast?_eq_none_iff.mp hlast]; rfl
  | some last => exact List.dropLast_append_getLast? last hlast

/-- A text that is not empty has the separator behind it, unless it is the last. -/
theorem joined_cons (separator item : String) {rest : List String} (hrest : rest ≠ []) :
    joined separator (item :: rest) =
      item ++ (if item = "" then "" else separator) ++ joined separator rest := by
  obtain ⟨next, rest, rfl⟩ := List.exists_cons_of_ne_nil hrest
  by_cases hitem : item = ""
  · simp [joined, joinedFrom, hitem]
  · simp [joined, joinedFrom, hitem, String.append_assoc]

theorem joined_eq (separator : String) (items : List String) :
    joined separator items = separator.intercalate (separated items) := by
  induction items with
  | nil => rfl
  | cons item rest ih =>
      by_cases hrest : rest = []
      · subst hrest
        simp [joined, joinedFrom, separated]
      · rw [joined_cons separator item hrest, separated_cons hrest, ih]
        by_cases hitem : item = ""
        · simp [hitem]
        · rw [if_neg hitem, if_neg hitem, List.singleton_append,
            String.intercalate_cons_of_ne_nil (separated_ne_nil hrest)]

/-- Each empty text in front of the last one costs a separator. -/
theorem length_joined (separator : String) (items : List String) :
    (joined separator items).length + items.dropLast.count "" * separator.length =
      (separator.intercalate items).length := by
  induction items with
  | nil => simp [joined, joinedFrom]
  | cons item rest ih =>
      by_cases hrest : rest = []
      · subst hrest
        simp [joined, joinedFrom]
      · rw [joined_cons separator item hrest, List.dropLast_cons_of_ne_nil hrest,
          String.intercalate_cons_of_ne_nil hrest, List.count_cons]
        simp only [String.length_append, ← ih]
        by_cases hitem : item = ""
        · simp [hitem, Nat.add_mul]
          omega
        · simp [hitem]
          omega

theorem joined_eq_intercalate {separator : String} {items : List String}
    (hitems : "" ∉ items.dropLast) : joined separator items = separator.intercalate items := by
  rw [joined_eq, separated_eq_self hitems]

/-- The separator stands between any two texts just when none but the last is empty. -/
theorem joined_eq_intercalate_iff {separator : String} (hseparator : separator ≠ "")
    {items : List String} :
    joined separator items = separator.intercalate items ↔ "" ∉ items.dropLast := by
  refine ⟨fun heq => ?_, joined_eq_intercalate⟩
  have hlength := length_joined separator items
  have hcost : items.dropLast.count "" * separator.length = 0 := by
    rw [heq] at hlength
    omega
  have hone : separator.length ≠ 0 := by simpa using hseparator
  exact List.count_eq_zero.mp ((Nat.mul_eq_zero.mp hcost).resolve_right hone)

end Text

theorem Statement.apply_defineList (st : Statement) (key : String) {texts : List String}
    (htexts : texts ≠ []) :
    st.apply (.defineList key texts) =
      .ok { st with draft := st.draft.define key (Text.joined ", " texts) } := by
  have hnone : Draft.defineListFault key texts = none := by
    rw [Draft.defineListFault, if_neg (by simpa using htexts)]
  rw [apply, Draft.apply, hnone]
  rfl

/-- Defining a list of texts changes nothing but the attribute of its key, and this holds the texts
with `, ` between those of them that are not empty, the last one counting as such. So `, ` stands
between any two texts just when none but the last is empty. -/
theorem define_list_separates (st : Statement) (key : String) {texts : List String}
    (htexts : texts ≠ []) :
    ∃ st', st.apply (.defineList key texts) = .ok st' ∧
      st'.template = st.template ∧ st'.config = st.config ∧
      st'.draft.binding = st.draft.binding ∧
      (∀ name ≠ key, st'.draft.attributes.get? name = st.draft.attributes.get? name) ∧
      st'.draft.attributes.get? key = some (", ".intercalate (Text.separated texts)) ∧
      (st'.draft.attributes.get? key = some (", ".intercalate texts) ↔ "" ∉ texts.dropLast) := by
  have hkey := st.draft.attributes.get?_define_self key (Text.joined ", " texts)
  refine ⟨_, st.apply_defineList key htexts, rfl, rfl, rfl, fun name hname => ?_, ?_, ?_⟩
  · rw [Draft.define, Attributes.get?_define, if_neg hname]
  · rw [← Text.joined_eq]
    exact hkey
  · rw [Draft.define, hkey, Option.some.injEq]
    exact Text.joined_eq_intercalate_iff (by decide)

/-- A statement about columns that are not known yet. -/
def columnSelection : Statement :=
  Statement.create (.standard 0) "select <columns> from t"

/-- Of four columns the first and the third have no name: one separator is left of three. -/
theorem define_list_separates_sparse :
    ["", "id", "", "name"] ≠ [] ∧
    ∃ st', columnSelection.apply (.defineList "columns" ["", "id", "", "name"]) = .ok st' ∧
      st'.draft.attributes.get? "columns" = some "id, name" ∧
      st'.draft.attributes.get? "columns" ≠ some ", id, , name" := by
  have htexts : ["", "id", "", "name"] ≠ [] := by simp
  obtain ⟨st', happly, -, -, -, -, hseparated, hall⟩ :=
    define_list_separates columnSelection "columns" htexts
  refine ⟨htexts, st', happly, hseparated, fun heq => ?_⟩
  exact hall.mp heq (by decide)

/-- Where a column without a name stands in front, the separator behind it is missing. -/
theorem define_list_empty_first :
    ∃ st', columnSelection.apply (.defineList "columns" ["", "id"]) = .ok st' ∧
      st'.draft.attributes.get? "columns" = some "id" ∧ "id" ≠ ", ".intercalate ["", "id"] :=
  ⟨_, rfl, rfl, by decide⟩

end SqlTemplate
