import SqlTemplate.Proofs.AssociationLists
import SqlTemplate.Proofs.ResolvedArguments

/-!
# When suppliers are called

Suppliers may have effects, so a call too many or a call too early is a lost answer. A resolution
asks finders first, then compares, and only when nothing mismatches it calls suppliers: those of the
declared parameters in the order in which these first appear, each once, until one of them fails.
The history says all of it, what is asked and what is called, and every placeholder of a parameter
gets the answer of the one call.
-/

namespace SqlTemplate

/-- Where an argument belongs. -/
inductive Place where
  | position (i : Nat)
  | name (name : String)
  deriving DecidableEq

namespace Place

/-- The place as the failure of its supplier shows it. -/
def text : Place → String
  | position i => "at position " ++ toString i
  | name n => "for parameter `" ++ n ++ "`"

theorem position_injective : Function.Injective position := fun _ _ => Place.position.inj

theorem name_injective : Function.Injective name := fun _ _ => Place.name.inj

end Place

namespace Parameters

/-- The places of parameters, one for each placeholder. -/
def places : Parameters → List Place
  | positional count => (List.range count).map .position
  | named names => names.map .name

/-- The places of parameters in the order in which they first appear, each once. -/
def distinctPlaces : Parameters → List Place
  | positional count => (List.range count).map .position
  | named names => names.eraseDups.map .name

theorem nodup_eraseDups (names : List String) : names.eraseDups.Nodup := by
  refine List.nodup_iff_pairwise_ne.mpr ((Binding.pairwise_eraseDups names).imp ?_)
  rintro name _ hbefore rfl
  exact Nat.lt_irrefl _ hbefore

theorem nodup_distinctPlaces (parameters : Parameters) : parameters.distinctPlaces.Nodup := by
  cases parameters with
  | positional count => exact List.Nodup.map Place.position_injective List.nodup_range
  | named names => exact List.Nodup.map Place.name_injective (nodup_eraseDups names)

theorem mem_distinctPlaces {parameters : Parameters} {place : Place} :
    place ∈ parameters.distinctPlaces ↔ place ∈ parameters.places := by
  cases parameters with
  | positional count => exact Iff.rfl
  | named names => simp [distinctPlaces, places, List.mem_eraseDups]

end Parameters

/-- The supplier that an argument is. -/
def Argument.supplier? : Argument → Option Supplier
  | supplier s => some s
  | _ => none

namespace Binding

/-! ## Calls -/

/-- The argument that counts at a place. -/
def sourceAt? (b : Binding) (site : BindingSite) : Place → Option Argument
  | .position i => b.positional.get? i
  | .name name => b.source? site name

/-- The suppliers of parameters, in the order in which the parameters first appear. -/
def suppliers (b : Binding) (site : BindingSite) (parameters : Parameters) :
    List (Place × Supplier) :=
  parameters.distinctPlaces.filterMap fun place =>
    ((b.sourceAt? site place).bind Argument.supplier?).map (place, ·)

/-- The calls of suppliers one after the other, the latest first. -/
def calls (called : List (Place × Supplier)) : List Event :=
  (called.map fun (_, s) => .called s.id).reverse

@[simp] theorem calls_nil : calls [] = [] := rfl

@[simp] theorem calls_cons (place : Place) (s : Supplier) (called : List (Place × Supplier)) :
    calls ((place, s) :: called) = calls called ++ [.called s.id] := by
  simp [calls]

/-- Suppliers called one after the other from a history on, and the value that each answers. -/
inductive Answered : History → List (Place × Supplier) → List (Place × Value) → Prop
  | nil {h : History} : Answered h [] []
  | cons {h : History} {place : Place} {s : Supplier} {v : Value}
      {rest : List (Place × Supplier)} {values : List (Place × Value)} :
      s.answer h = .ok v → Answered (.called s.id :: h) rest values →
      Answered h ((place, s) :: rest) ((place, v) :: values)

/-- How a resolution deals with suppliers, `start` being the history after the finders were asked:
it mismatches and calls none, or it calls them up to the first one that fails, or all of them. -/
inductive CallsSuppliers (b : Binding) (site : BindingSite) (parameters : Parameters)
    (allowUnused : Bool) (start : History) : Except Failure (List Resolved) → History → Prop
  | mismatch {m : Mismatch} :
      b.FirstViolated site parameters allowUnused m →
      CallsSuppliers b site parameters allowUnused start (.error (.mismatch m)) start
  | refused {earlier later : List (Place × Supplier)} {place : Place} {s : Supplier}
      {values : List (Place × Value)} {cause : Failure} :
      (∀ kind ∈ parameters.mismatchKinds allowUnused, ¬ b.Violated site parameters kind) →
      b.suppliers site parameters = earlier ++ (place, s) :: later →
      Answered start earlier values → s.answer (calls earlier ++ start) = .error cause →
      CallsSuppliers b site parameters allowUnused start
        (.error (.context ("Cannot compute the argument " ++ place.text) cause))
        (.called s.id :: (calls earlier ++ start))
  | answered {values : List (Place × Value)} {args : List Resolved} :
      (∀ kind ∈ parameters.mismatchKinds allowUnused, ¬ b.Violated site parameters kind) →
      Answered start (b.suppliers site parameters) values →
      (∀ (i : Nat) (place : Place) (v : Value), parameters.places[i]? = some place →
        (place, v) ∈ values → args[i]? = some ⟨v, v.asNull, false⟩) →
      CallsSuppliers b site parameters allowUnused start (.ok args)
        (calls (b.suppliers site parameters) ++ start)

/-! ## Realizing calls the suppliers among the sources -/

/-- The suppliers among sources, each at the place of its key. -/
def suppliersOf {κ : Type} (place : κ → Place) (sources : List (κ × Argument)) :
    List (Place × Supplier) :=
  sources.filterMap fun (key, argument) => argument.supplier?.map (place key, ·)

section

variable {κ : Type} {described : κ → String} {place : κ → Place} {h h' : History}
  {sources : List (κ × Argument)} {outcome : Except Failure (List (κ × Resolved))}

theorem RealizesAll.answered (hall : RealizesAll described h sources outcome h')
    (place : κ → Place) :
    ∀ realized, outcome = .ok realized → ∃ values,
      Answered h (suppliersOf place sources) values ∧
        h' = calls (suppliersOf place sources) ++ h ∧
        ∀ p v, (p, v) ∈ values → ∃ key, place key = p ∧
          (key, ⟨v, v.asNull, false⟩) ∈ realized := by
  induction hall with
  | nil =>
      intro realized _
      exact ⟨[], .nil, rfl, by simp⟩
  | refused =>
      intro realized houtcome
      simp at houtcome
  | @cons h h₁ h' key argument r rest outcome hrealizes _ ih =>
      intro realized houtcome
      cases outcome with
      | error failure => simp [Except.map] at houtcome
      | ok others =>
          obtain rfl := Except.ok.inj houtcome
          obtain ⟨values, hanswered, hhistory, hvalues⟩ := ih others rfl
          have hothers : ∀ p v, (p, v) ∈ values →
              ∃ k, place k = p ∧ (k, (⟨v, v.asNull, false⟩ : Resolved)) ∈ (key, r) :: others := by
            intro p v hmem
            obtain ⟨k, hk, hmem⟩ := hvalues p v hmem
            exact ⟨k, hk, List.mem_cons_of_mem _ hmem⟩
          cases hrealizes with
          | value => exact ⟨values, hanswered, hhistory, hothers⟩
          | typed => exact ⟨values, hanswered, hhistory, hothers⟩
          | @supplier s v hanswer =>
              have hfirst : suppliersOf place ((key, .supplier s) :: rest) =
                  (place key, s) :: suppliersOf place rest := rfl
              refine ⟨(place key, v) :: values, .cons hanswer hanswered, ?_, ?_⟩
              · rw [hhistory, hfirst, calls_cons, List.append_assoc]
                rfl
              · intro p w hmem
                rcases List.mem_cons.mp hmem with heq | hmem
                · obtain ⟨rfl, rfl⟩ := Prod.mk.inj heq
                  exact ⟨key, rfl, List.mem_cons_self⟩
                · exact hothers p w hmem

theorem RealizesAll.refused_after (hall : RealizesAll described h sources outcome h')
    (hplace : ∀ key, (place key).text = described key) :
    ∀ failure, outcome = .error failure → ∃ earlier p s later values cause,
      suppliersOf place sources = earlier ++ (p, s) :: later ∧ Answered h earlier values ∧
        s.answer (calls earlier ++ h) = .error cause ∧
        failure = .context ("Cannot compute the argument " ++ p.text) cause ∧
        h' = .called s.id :: (calls earlier ++ h) := by
  induction hall with
  | nil =>
      intro failure houtcome
      simp at houtcome
  | @refused h h' key argument rest cause hrefuses =>
      intro failure houtcome
      obtain rfl := Except.error.inj houtcome
      cases hrefuses with
      | @supplier s _ hanswer =>
          exact ⟨[], place key, s, suppliersOf place rest, [], cause, rfl, .nil, hanswer,
            by rw [hplace], rfl⟩
  | @cons h h₁ h' key argument r rest outcome hrealizes _ ih =>
      intro failure houtcome
      cases outcome with
      | ok others => simp [Except.map] at houtcome
      | error failure' =>
          obtain rfl := Except.error.inj houtcome
          obtain ⟨earlier, p, s, later, values, cause, hsuppliers, hanswered, hanswer, hfailure,
            hhistory⟩ := ih failure' rfl
          cases hrealizes with
          | value =>
              exact ⟨earlier, p, s, later, values, cause, hsuppliers, hanswered, hanswer, hfailure,
                hhistory⟩
          | typed =>
              exact ⟨earlier, p, s, later, values, cause, hsuppliers, hanswered, hanswer, hfailure,
                hhistory⟩
          | @supplier s₀ v hfirst =>
              have hpassed : calls ((place key, s₀) :: earlier) ++ h =
                  calls earlier ++ (.called s₀.id :: h) := by simp
              refine ⟨(place key, s₀) :: earlier, p, s, later, (place key, v) :: values, cause, ?_,
                .cons hfirst hanswered, ?_, hfailure, ?_⟩
              · exact congrArg ((place key, s₀) :: ·) hsuppliers
              · rw [hpassed]
                exact hanswer
              · rw [hpassed]
                exact hhistory

/-- What is realized has the keys of the sources. -/
theorem RealizesAll.keys {realized : List (κ × Resolved)}
    (hall : RealizesAll described h sources (.ok realized) h') :
    realized.map Prod.fst = sources.map Prod.fst := by
  have hmatches := hall.matches realized rfl
  clear hall
  induction hmatches with
  | nil => rfl
  | cons hmatch _ ih => rw [List.map_cons, List.map_cons, hmatch.1, ih]

end

section

variable {b : Binding} {site : BindingSite} {parameters : Parameters} {allowUnused : Bool}

theorem suppliers_positional {count : Nat} (hbound : ∀ i < count, b.positional.get? i ≠ none) :
    b.suppliers site (.positional count) =
      suppliersOf .position (b.positionalSources count) := by
  rw [suppliers, Parameters.distinctPlaces, ← positionalSources_keys hbound, List.map_map,
    List.filterMap_map, suppliersOf]
  refine List.filterMap_congr fun source hmem => ?_
  obtain ⟨i, argument⟩ := source
  obtain ⟨-, hget⟩ := mem_positionalSources hmem
  simp [sourceAt?, hget]

theorem suppliers_named (names : List String) :
    b.suppliers site (.named names) = suppliersOf .name (b.namedSources site names) := by
  rw [suppliers, Parameters.distinctPlaces, suppliersOf, namedSources, List.filterMap_map,
    List.filterMap_filterMap]
  refine List.filterMap_congr fun name _ => ?_
  show ((b.source? site name).bind Argument.supplier?).map (Place.name name, ·) = _
  cases b.source? site name <;> rfl

theorem mem_suppliers {place : Place} {s : Supplier} :
    (place, s) ∈ b.suppliers site parameters ↔
      place ∈ parameters.places ∧ b.sourceAt? site place = some (.supplier s) := by
  have hsupplier : ∀ argument : Argument,
      argument.supplier? = some s ↔ argument = .supplier s := by
    intro argument
    cases argument <;> simp [Argument.supplier?]
  rw [suppliers, List.mem_filterMap]
  constructor
  · rintro ⟨p, hp, hfound⟩
    obtain ⟨own, hown, hpair⟩ := Option.map_eq_some_iff.mp hfound
    obtain ⟨rfl, rfl⟩ := Prod.mk.inj hpair
    obtain ⟨argument, hargument, hown⟩ := Option.bind_eq_some_iff.mp hown
    rw [hsupplier] at hown
    exact ⟨Parameters.mem_distinctPlaces.mp hp, hown ▸ hargument⟩
  · rintro ⟨hplace, hsource⟩
    exact ⟨place, Parameters.mem_distinctPlaces.mpr hplace, by rw [hsource]; rfl⟩

/-- Leaving out some keys leaves them without repeats. -/
theorem nodup_fst_filterMap {κ α : Type} {keys : List κ} (hnodup : keys.Nodup)
    (f : κ → Option α) :
    ((keys.filterMap fun key => (f key).map (key, ·)).map Prod.fst).Nodup := by
  refine hnodup.sublist ?_
  clear hnodup
  induction keys with
  | nil => exact List.Sublist.slnil
  | cons key keys ih =>
      rw [List.filterMap_cons]
      cases f key with
      | none => exact ih.cons key
      | some a => exact ih.cons_cons key

theorem nodup_namedSources (b : Binding) (site : BindingSite) (names : List String) :
    ((b.namedSources site names).map Prod.fst).Nodup :=
  nodup_fst_filterMap (Parameters.nodup_eraseDups names) _

theorem nodup_suppliers (b : Binding) (site : BindingSite) (parameters : Parameters) :
    ((b.suppliers site parameters).map Prod.fst).Nodup :=
  nodup_fst_filterMap parameters.nodup_distinctPlaces _

/-! ## A whole resolution -/

/-- The sources realized in order call their suppliers, provided that what is realized under the key
of a placeholder is the argument of that placeholder. -/
theorem callsSuppliers_of_realizesAll {κ : Type} {described : κ → String} {place : κ → Place}
    {start h' : History} {sources : List (κ × Argument)}
    {outcome : Except Failure (List (κ × Resolved))}
    (hplace : ∀ key, (place key).text = described key)
    (hnone : b.mismatch? site parameters allowUnused = none)
    (hsuppliers : b.suppliers site parameters = suppliersOf place sources)
    (hall : RealizesAll described start sources outcome h')
    (args : List (κ × Resolved) → List Resolved)
    (hargs : ∀ realized, outcome = .ok realized → ∀ (i : Nat) key r,
      parameters.places[i]? = some (place key) → (key, r) ∈ realized →
        (args realized)[i]? = some r) :
    b.CallsSuppliers site parameters allowUnused start (outcome.map args) h' := by
  have hviolated := mismatch?_eq_none_iff.mp hnone
  cases outcome with
  | error failure =>
      obtain ⟨earlier, p, s, later, values, cause, hsplit, hanswered, hanswer, rfl, rfl⟩ :=
        hall.refused_after hplace failure rfl
      exact .refused hviolated (hsuppliers.trans hsplit) hanswered hanswer
  | ok realized =>
      obtain ⟨values, hanswered, hhistory, hvalues⟩ := hall.answered place realized rfl
      rw [hhistory, ← hsuppliers]
      refine .answered hviolated (hsuppliers ▸ hanswered) fun i p v hp hmem => ?_
      obtain ⟨key, rfl, hrealized⟩ := hvalues p v hmem
      exact hargs realized rfl i key _ hp hrealized

theorem callsSuppliers_positional (b : Binding) (site : BindingSite) (allowUnused : Bool)
    (count : Nat) (h : History) :
    b.CallsSuppliers site (.positional count) allowUnused h
      ((b.resolvePositional allowUnused count).run h).1
      ((b.resolvePositional allowUnused count).run h).2 := by
  rw [b.resolvePositional_run site]
  cases hmismatch : b.mismatch? site (.positional count) allowUnused with
  | some m => exact .mismatch (mismatch?_eq_some_iff.mp hmismatch)
  | none =>
      have hbound := bound_of_mismatch?_eq_none hmismatch
      have hall := realizesAll_run (fun i => "at position " ++ toString i)
        (b.positionalSources count) h
      refine callsSuppliers_of_realizesAll (fun _ => rfl) hmismatch (suppliers_positional hbound)
        hall _ fun realized houtcome i key r hp hmem => ?_
      rw [houtcome] at hall
      have hkeys : realized.map Prod.fst = List.range count :=
        hall.keys.trans (positionalSources_keys hbound)
      obtain ⟨j, hj⟩ := List.mem_iff_getElem?.mp hmem
      have hkey : (realized.map Prod.fst)[j]? = some key := by rw [List.getElem?_map, hj]; rfl
      -- Both the placeholder and what was realized stand at the place that the key says.
      obtain rfl : j = key := by
        rw [hkeys] at hkey
        exact (List.getElem?_eq_some_iff.mp hkey).2 ▸ (List.getElem_range _).symm
      obtain rfl : i = j := by
        rw [Parameters.places, List.getElem?_map, Option.map_eq_some_iff] at hp
        obtain ⟨k, hk, heq⟩ := hp
        exact Place.position.inj heq ▸ (List.getElem?_eq_some_iff.mp hk).2 ▸
          (List.getElem_range _).symm
      rw [List.getElem?_map, hj]
      rfl

theorem callsSuppliers_named (b : Binding) (site : BindingSite) (allowUnused : Bool)
    (names : List String) (h : History) :
    b.CallsSuppliers site (.named names) allowUnused
      ((b.questions site (.named names)).reverse ++ h)
      ((b.resolveNamed site allowUnused names).run h).1
      ((b.resolveNamed site allowUnused names).run h).2 := by
  rw [resolveNamed_run]
  cases hmismatch : b.mismatch? site (.named names) allowUnused with
  | some m => exact .mismatch (mismatch?_eq_some_iff.mp hmismatch)
  | none =>
      have hsources := source?_of_mismatch?_eq_none hmismatch
      have hall := realizesAll_run (fun name => "for parameter `" ++ name ++ "`")
        (b.namedSources site names) ((b.questions site (.named names)).reverse ++ h)
      refine callsSuppliers_of_realizesAll (fun _ => rfl) hmismatch (suppliers_named names)
        hall _ fun realized houtcome i name r hp hmem => ?_
      rw [houtcome] at hall
      obtain ⟨-, hget, -⟩ := hall.named hsources
      have hname : names[i]? = some name := by
        rw [Parameters.places, List.getElem?_map, Option.map_eq_some_iff] at hp
        obtain ⟨n, hn, heq⟩ := hp
        rw [hn, Place.name.inj heq]
      have hnodup : (realized.map Prod.fst).Nodup := by
        rw [hall.keys]
        exact nodup_namedSources b site names
      rw [hget, hname, Option.bind_some]
      exact lookup_of_mem hnodup hmem

/-- Every resolution deals with suppliers in one of these ways. -/
theorem callsSuppliers_resolve (b : Binding) (parameters : Parameters) (site : BindingSite)
    (allowUnused : Bool) (h : History) :
    b.CallsSuppliers site parameters allowUnused ((b.questions site parameters).reverse ++ h)
      ((b.resolve parameters site allowUnused).run h).1
      ((b.resolve parameters site allowUnused).run h).2 := by
  cases parameters with
  | positional count => exact b.callsSuppliers_positional site allowUnused count h
  | named names => exact b.callsSuppliers_named site allowUnused names h

/-! ## Questions -/

theorem lt_askedCount_iff {site : BindingSite} {name : String} {finders : List Finder}
    {index : Nat} :
    index < askedCount site name finders ↔
      index < finders.length ∧ ∀ finder ∈ finders.take index, finder.find? site name = none := by
  induction finders generalizing index with
  | nil => simp [askedCount]
  | cons finder finders ih =>
      rw [askedCount_cons]
      cases index with
      | zero => cases (finder.find? site name).isSome <;> simp
      | succ index =>
          rw [List.take_succ_cons, List.forall_mem_cons, List.length_cons]
          cases hanswer : finder.find? site name with
          | some argument => simp
          | none => simpa using ih

/-- Finders are asked about declared names that have no argument of their own, as long as no finder
in front of them has an answer. -/
theorem mem_questions {b : Binding} {site : BindingSite} {parameters : Parameters} {index : Nat}
    {name : String} :
    .asked index name ∈ b.questions site parameters ↔
      name ∈ parameters.declaredNames ∧ b.named.get? name = none ∧
        index < b.finders.length ∧
        ∀ finder ∈ b.finders.take index, finder.find? site name = none := by
  have habout : ∀ other, .asked index name ∈ b.questionsAbout site other ↔
      other = name ∧ b.named.get? name = none ∧ index < askedCount site name b.finders := by
    intro other
    unfold questionsAbout
    split
    · rename_i argument hbound
      simp only [List.not_mem_nil, false_iff]
      rintro ⟨rfl, hunbound, -⟩
      rw [hbound] at hunbound
      exact absurd hunbound (by simp)
    · rename_i hunbound
      simp only [List.mem_map, List.mem_range, Event.asked.injEq]
      constructor
      · rintro ⟨i, hi, rfl, rfl⟩
        exact ⟨rfl, hunbound, hi⟩
      · rintro ⟨rfl, -, hindex⟩
        exact ⟨index, hindex, rfl, rfl⟩
  rw [← lt_askedCount_iff]
  cases parameters with
  | positional count => simp [questions, Parameters.declaredNames]
  | named names =>
      simp only [questions, List.mem_flatMap, List.mem_eraseDups, habout,
        Parameters.declaredNames]
      constructor
      · rintro ⟨_, hname, rfl, hrest⟩
        exact ⟨hname, hrest⟩
      · rintro ⟨hname, hrest⟩
        exact ⟨name, hname, rfl, hrest⟩

/-- No finder is asked twice about a name. -/
theorem nodup_questions (b : Binding) (site : BindingSite) (parameters : Parameters) :
    (b.questions site parameters).Nodup := by
  have habout : ∀ name, (b.questionsAbout site name).Nodup ∧
      ∀ e ∈ b.questionsAbout site name, ∃ index, e = .asked index name := by
    intro name
    unfold questionsAbout
    split
    · simp
    · refine ⟨List.Nodup.map (fun i j heq => (Event.asked.inj heq).1) List.nodup_range, ?_⟩
      rintro e he
      obtain ⟨index, -, rfl⟩ := List.mem_map.mp he
      exact ⟨index, rfl⟩
  cases parameters with
  | positional count => exact List.nodup_nil
  | named names =>
      refine List.nodup_flatMap.mpr ⟨fun name _ => (habout name).1, ?_⟩
      refine (List.nodup_iff_pairwise_ne.mp (Parameters.nodup_eraseDups names)).imp ?_
      intro name other hne e he he'
      obtain ⟨_, rfl⟩ := (habout name).2 e he
      obtain ⟨_, heq⟩ := (habout other).2 _ he'
      exact hne (Event.asked.inj heq).2

end

end Binding

/-- A resolution that reports a mismatch has called no supplier. Otherwise it has called the
suppliers of the declared parameters in the order of their first appearance, each once, through the
first one that fails, whose failure it reports, and the answer of the one call stands in every place
of its parameter. Finders were asked before, none of them twice about a name and none about a name
with an argument of its own; nothing else has happened. -/
theorem suppliers_called_once (b : Binding) (parameters : Parameters) (site : BindingSite)
    (allowUnused : Bool) (before : Session) :
    let run := (b.resolveParameters parameters site allowUnused).run before
    let asked := b.questions site parameters
    (∃ outcome, run.1 = outcome.mapError (b.resolutionFailure site) ∧
      b.CallsSuppliers site parameters allowUnused (asked.reverse ++ before.history) outcome
        run.2.history) ∧
    (∀ place s, (place, s) ∈ b.suppliers site parameters ↔
      place ∈ parameters.places ∧ b.sourceAt? site place = some (.supplier s)) ∧
    ((b.suppliers site parameters).map Prod.fst).Nodup ∧
    (∀ index name, .asked index name ∈ asked ↔
      name ∈ parameters.declaredNames ∧ b.named.get? name = none ∧ index < b.finders.length ∧
        ∀ finder ∈ b.finders.take index, finder.find? site name = none) ∧
    asked.Nodup := by
  intro run asked
  refine ⟨?_, fun place s => Binding.mem_suppliers, b.nodup_suppliers site parameters,
    fun index name => Binding.mem_questions, b.nodup_questions site parameters⟩
  have hcalls := b.callsSuppliers_resolve parameters site allowUnused before.history
  refine ⟨_, b.resolveParameters_result parameters site allowUnused before, ?_⟩
  have hhistory : run.2.history =
      ((b.resolve parameters site allowUnused).run before.history).2 := by
    show ((b.resolveParameters parameters site allowUnused).run before).2.history = _
    rw [Binding.resolveParameters_run]
    cases (b.resolve parameters site allowUnused).run before.history with
    | mk result history => cases result <;> rfl
  rwa [hhistory]

/-- A counter that stands in two places is called once, and nothing is called behind a supplier that
fails. -/
example :
    let b := ((Binding.empty.addNamed "a" (.supplier (.counter 1 5))).addNamed "b"
      (.supplier (.failing 2 "no number"))).addNamed "c" (.supplier (.counter 3 0))
    ((b.resolveParameters (.named ["a", "b", "a", "c"]) ⟨"", ⟨"", .positional 0⟩, .empty⟩
      false).run Session.empty).2.history = [.called 2, .called 1] := rfl

end SqlTemplate
