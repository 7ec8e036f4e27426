import SqlTemplate.Proofs.CallsInPlace
import SqlTemplate.Proofs.ListRebinding

/-!
# Lists of different keys

The names that a list makes have its key in them, and no two lists with different keys share one,
whatever the keys end in. So two lists are bound in any order, and each keeps its values next to the
other. A list that is refused changes nothing.
-/

namespace SqlTemplate

/-- A text for one name does not get in the way of a text for another. -/
theorem Attributes.define_comm (a : Attributes) {key key' : String} (hne : key ≠ key')
    (value value' : String) :
    (a.define key value).define key' value' = (a.define key' value').define key value := by
  refine congrArg Attributes.mk (Table.ext_get? fun name => ?_)
  simp only [define, Table.get?_insert]
  by_cases hname : name = key
  · rw [if_neg (hname ▸ hne), if_pos hname, if_pos hname]
  · rw [if_neg hname, if_neg hname]

namespace Draft

theorem listParameter_ne {key key' : String} (hne : key ≠ key') (i j : Nat) :
    listParameter key i ≠ listParameter key' j :=
  fun heq => hne (listParameter_inj.mp heq).1

/-- Lists of different keys are bound to different names. -/
theorem listArguments_apart {key key' : String} (hne : key ≠ key') (values values' : List Value) :
    ∀ e ∈ listArguments key values, ∀ e' ∈ listArguments key' values', e.1 ≠ e'.1 := by
  intro e he e' he'
  obtain ⟨i, _, -, hname, -⟩ := mem_listArguments_iff.mp he
  obtain ⟨j, _, -, hname', -⟩ := mem_listArguments_iff.mp he'
  rw [hname, hname']
  exact listParameter_ne hne i j

end Draft

/-! ## What a statement holds -/

namespace Statement

/-- Whether a statement has a list: its markers in the attribute, and each value at its name. -/
structure HasList (st : Statement) (key : String) (values : List Value) : Prop where
  markers : st.draft.attributes.get? key =
    some (Draft.listMarkers st.config.style key values.length)
  arguments : ∀ (i : Nat) value, values[i]? = some value →
    st.draft.binding.named.get? (Draft.listParameter key i) = some (.value value)

/-- Whether a statement refuses a call: the call fails, and in place it changes nothing and records
nothing but its failure. -/
def Refuses (st : Statement) (call : BindCall) (failure : Failure) : Prop :=
  st.apply call = .error failure ∧
    ∀ log, (Draft.perform st.config.style call).run (st.draft, log) =
      (.error failure, st.draft, log ++ [⟨.error, failure.message⟩])

theorem HasList.of_apply {st st' : Statement} {key : String} {values : List Value}
    (happly : st.apply (.list key values) = .ok st') (hkey : Draft.isListKey key = true)
    (hvalues : values ≠ []) : st'.HasList key values := by
  rw [st.apply_list hkey hvalues] at happly
  obtain rfl := Except.ok.inj happly
  refine ⟨Attributes.get?_define_self _ _ _, fun i value hvalue => ?_⟩
  rw [Binding.get?_addNameds, Draft.lookup_listArguments_iff.mpr
    (Draft.mem_listArguments_iff.mpr ⟨i, value, hvalue, rfl, rfl⟩), Option.some_or]

/-! ## Refused lists -/

theorem refuses_of_draft {st : Statement} {call : BindCall} {failure : Failure}
    (happly : st.draft.apply st.config.style call = .error failure)
    (hrecords : st.draft.records call = [⟨.error, failure.message⟩]) : st.Refuses call failure := by
  refine ⟨by rw [apply, happly]; rfl, fun log => ?_⟩
  rw [Draft.run_perform, happly, hrecords]

theorem refuses_list (st : Statement) {key : String} {values : List Value} {failure : Failure}
    (hfault : Draft.listFault key values = some failure) :
    st.Refuses (.list key values) failure := by
  refine refuses_of_draft ?_ ?_
  · rw [Draft.apply, hfault]
  · rw [Draft.records, hfault]
    rfl

theorem refuses_defineList (st : Statement) (key : String) :
    st.Refuses (.defineList key []) (.emptyList "define_list" key) :=
  refuses_of_draft rfl rfl

/-! ## Two lists -/

/-- The order in which two lists are bound does not matter. -/
theorem apply_lists_comm (st : Statement) {key key' : String} {values values' : List Value}
    (hkey : Draft.isListKey key = true) (hkey' : Draft.isListKey key' = true) (hne : key ≠ key')
    (hvalues : values ≠ []) (hvalues' : values' ≠ []) :
    [BindCall.list key values, .list key' values'].foldlM apply st =
      [BindCall.list key' values', .list key values].foldlM apply st := by
  rw [st.apply_lists hkey hkey' hvalues hvalues', st.apply_lists hkey' hkey hvalues' hvalues,
    Binding.addNameds_comm _ (Draft.listArguments_apart hne values values'),
    st.draft.attributes.define_comm hne]

/-- A list that is bound last is there. -/
theorem HasList.of_apply_after {st st' : Statement} {key : String} {values : List Value}
    {call : BindCall} (hcalls : [call, .list key values].foldlM apply st = .ok st')
    (hkey : Draft.isListKey key = true) (hvalues : values ≠ []) : st'.HasList key values := by
  rw [List.foldlM_cons] at hcalls
  cases hfirst : st.apply call with
  | error failure =>
      rw [hfirst] at hcalls
      cases hcalls
  | ok between =>
      rw [hfirst] at hcalls
      exact .of_apply ((bind_pure _).symm.trans hcalls) hkey hvalues

end Statement

/-- Lists of different keys have no name in common. They can be bound in either order, which makes
the same statement, and it has both lists. A list under a key that cannot form names is refused, and
so is a list without values, also one of texts: the binding and the attributes stay as they are. -/
theorem lists_keep_apart (st : Statement) :
    (∀ (key key' : String) (values values' : List Value), Draft.isListKey key = true →
      Draft.isListKey key' = true → key ≠ key' → values ≠ [] → values' ≠ [] →
      (∀ i j, Draft.listParameter key i ≠ Draft.listParameter key' j) ∧
      ∃ st', [BindCall.list key values, .list key' values'].foldlM Statement.apply st = .ok st' ∧
        [BindCall.list key' values', .list key values].foldlM Statement.apply st = .ok st' ∧
        st'.HasList key values ∧ st'.HasList key' values') ∧
    (∀ key values, Draft.isListKey key = false →
      st.Refuses (.list key values) (.badListKey key)) ∧
    (∀ key, Draft.isListKey key = true →
      st.Refuses (.list key []) (.emptyList "bind_list" key)) ∧
    ∀ key, st.Refuses (.defineList key []) (.emptyList "define_list" key) := by
  refine ⟨fun key key' values values' hkey hkey' hne hvalues hvalues' => ?_,
    fun key values hkey => ?_, fun key hkey => ?_, st.refuses_defineList⟩
  · have hcalls := st.apply_lists hkey hkey' hvalues hvalues'
    have hswapped := (st.apply_lists_comm hkey hkey' hne hvalues hvalues').symm.trans hcalls
    exact ⟨Draft.listParameter_ne hne, _, hcalls, hswapped, .of_apply_after hswapped hkey hvalues,
      .of_apply_after hcalls hkey' hvalues'⟩
  · exact st.refuses_list (by rw [Draft.listFault, hkey]; rfl)
  · exact st.refuses_list (by rw [Draft.listFault, hkey]; rfl)

/-- A statement about two lists. -/
def twoLists : Statement :=
  Statement.create (.standard 0) "select * from t where a in (<a>) and b in (<a_1>)"

/-- One key is the other with an index, and a key with two dots in a row is none. -/
theorem lists_keep_apart_indexed :
    let xs : List Value := [.varchar (some "x"), .varchar (some "y")]
    let ys : List Value := [.varchar (some "z")]
    (Draft.isListKey "a" = true ∧ Draft.isListKey "a_1" = true ∧ "a" ≠ "a_1" ∧ xs ≠ [] ∧
      ys ≠ []) ∧
    Draft.isListKey "a..b" = false ∧
    (∃ st', [BindCall.list "a" xs, .list "a_1" ys].foldlM Statement.apply twoLists = .ok st' ∧
      [BindCall.list "a_1" ys, .list "a" xs].foldlM Statement.apply twoLists = .ok st' ∧
      st'.draft.binding.named.get? "__a_1" = some (.value (.varchar (some "y"))) ∧
      st'.draft.binding.named.get? "__a_1_0" = some (.value (.varchar (some "z")))) ∧
    twoLists.Refuses (.list "a..b" xs) (.badListKey "a..b") ∧
    twoLists.Refuses (.list "a" []) (.emptyList "bind_list" "a") := by
  intro xs ys
  have hkey : Draft.isListKey "a" = true := by decide
  have hkey' : Draft.isListKey "a_1" = true := by decide
  have hbad : Draft.isListKey "a..b" = false := by decide
  have hne : "a" ≠ "a_1" := by decide
  have hxs : xs ≠ [] := by simp [xs]
  have hys : ys ≠ [] := by simp [ys]
  obtain ⟨hapart, hrejected, hempty, -⟩ := lists_keep_apart twoLists
  obtain ⟨-, st', hcalls, hswapped, hfirst, hsecond⟩ :=
    hapart "a" "a_1" xs ys hkey hkey' hne hxs hys
  exact ⟨⟨hkey, hkey', hne, hxs, hys⟩, hbad,
    ⟨st', hcalls, hswapped, hfirst.arguments 1 _ rfl, hsecond.arguments 0 _ rfl⟩,
    hrejected "a..b" xs hbad, hempty "a" hkey⟩

end SqlTemplate
