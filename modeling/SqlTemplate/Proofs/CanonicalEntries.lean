import SqlTemplate.Proofs.AssociationLists
import SqlTemplate.Proofs.CacheRecency

/-!
# The first entry of a template is canonical

Several callers share a cache, and each looks a template up, parses it on its own, and stores what
it made. So a cache is run here by any sequence of getting, storing and clearing, which is also what
overlapping calls come to. One operation takes a template away or it keeps the entry of that
template; hence what the cache holds is the entry stored first since the template was last absent.
-/

namespace SqlTemplate

/-- An operation on a cache. -/
inductive CacheOperation where
  | get (template : String)
  | insert (template : String) (entry : Entry)
  | clear

/-- The entry that an operation brings for a template. -/
def CacheOperation.given? : CacheOperation → String → Option Entry
  | insert own entry, template => if own = template then some entry else none
  | _, _ => none

theorem CacheOperation.given?_eq_some_iff {op : CacheOperation} {template : String}
    {entry : Entry} : op.given? template = some entry ↔ op = .insert template entry := by
  cases op with
  | get own => simp [given?]
  | insert own held =>
      simp only [given?, insert.injEq]
      constructor
      · intro hgiven
        split at hgiven
        · exact ⟨‹_›, Option.some.inj hgiven⟩
        · exact absurd hgiven (by simp)
      · rintro ⟨rfl, rfl⟩
        exact if_pos rfl
  | clear => simp [given?]

namespace QueryCache

/-! ## Operations -/

/-- The cache after an operation. -/
def perform (c : QueryCache) : CacheOperation → QueryCache
  | .get template => (c.get template).2
  | .insert template entry => (c.insert template entry).cache
  | .clear => c.clear

/-- The cache after operations in order. -/
def after (c : QueryCache) (ops : List CacheOperation) : QueryCache :=
  ops.foldl perform c

/-- Whether an operation takes a template away: it clears the cache, or it evicts the template. -/
def Removes (c : QueryCache) (template : String) : CacheOperation → Prop
  | .get _ => False
  | .insert own entry => (c.insert own entry).evicted = some template
  | .clear => True

instance (c : QueryCache) (template : String) (op : CacheOperation) :
    Decidable (c.Removes template op) :=
  match op with
  | .get _ => .isFalse id
  | .insert own entry => inferInstanceAs (Decidable ((c.insert own entry).evicted = some template))
  | .clear => .isTrue trivial

/-- Whether none of the operations takes a template away. -/
def Keeps : QueryCache → List CacheOperation → String → Prop
  | _, [], _ => True
  | c, op :: ops, template => ¬c.Removes template op ∧ (c.perform op).Keeps ops template

theorem after_append_singleton (c : QueryCache) (ops : List CacheOperation)
    (last : CacheOperation) : c.after (ops ++ [last]) = (c.after ops).perform last := by
  rw [after, after, List.foldl_append]
  rfl

theorem keeps_append_singleton {c : QueryCache} {ops : List CacheOperation}
    {last : CacheOperation} {template : String} :
    c.Keeps (ops ++ [last]) template ↔
      c.Keeps ops template ∧ ¬(c.after ops).Removes template last := by
  induction ops generalizing c with
  | nil => simp [Keeps, after]
  | cons op ops ih =>
      rw [List.cons_append, Keeps, Keeps, ih, and_assoc]
      rfl

/-- An empty cache that keeps what it is given. -/
def Started (c : QueryCache) : Prop :=
  c = .unbounded [] ∨ ∃ capacity, c = .ofCapacity capacity

/-- The templates of a cache are different, and it has room for at least one. -/
structure WellFormed (c : QueryCache) : Prop where
  distinct : (c.entries.map Prod.fst).Nodup
  room : c.capacity? ≠ some 0
  enabled : c ≠ .disabled

theorem Started.wellFormed {c : QueryCache} (hc : c.Started) : c.WellFormed := by
  rcases hc with rfl | ⟨capacity, rfl⟩
  · exact ⟨List.nodup_nil, by simp [capacity?], by simp⟩
  · refine ⟨List.nodup_nil, ?_, by simp [ofCapacity]⟩
    by_cases hzero : capacity = 0 <;> simp [ofCapacity, capacity?, defaultCapacity, hzero]

theorem Started.entries {c : QueryCache} (hc : c.Started) : c.entries = [] := by
  rcases hc with rfl | ⟨capacity, rfl⟩ <;> rfl

/-! ## What one operation does to a template -/

/-- A use changes the order of the entries and nothing else. -/
theorem peek?_touch (c : QueryCache) (own template : String) :
    (c.touch own).peek? template = c.peek? template := by
  cases hpeek : c.peek? own with
  | none => rw [touch_of_absent hpeek]
  | some entry =>
      cases c with
      | unbounded entries => rfl
      | disabled => rfl
      | bounded capacity entries =>
          have hlookup : entries.lookup own = some entry := hpeek
          simp only [touch, hlookup]
          show ((own, entry) :: entries.filter (·.1 != own)).lookup template =
            entries.lookup template
          rw [lookup_cons_eq]
          by_cases htemplate : template = own
          · rw [if_pos htemplate, htemplate, hlookup]
          · rw [if_neg htemplate, lookup_filter_ne htemplate]

theorem WellFormed.touch {c : QueryCache} (hc : c.WellFormed) (template : String) :
    (c.touch template).WellFormed := by
  cases hpeek : c.peek? template with
  | none => rwa [touch_of_absent hpeek]
  | some entry =>
      cases c with
      | unbounded entries => exact hc
      | disabled => exact hc
      | bounded capacity entries =>
          obtain ⟨entries', htouch, hfst⟩ := fst_touch hpeek
          rw [htouch]
          refine ⟨?_, hc.room, by simp⟩
          show (entries'.map Prod.fst).Nodup
          rw [hfst, used]
          exact List.nodup_cons.mpr ⟨by simp, hc.distinct.filter _⟩

theorem WellFormed.clear {c : QueryCache} (hc : c.WellFormed) : c.clear.WellFormed := by
  refine ⟨?_, ?_, ?_⟩
  · rw [entries_clear]
    exact List.nodup_nil
  · cases c <;> exact hc.room
  · cases c with
    | disabled => exact absurd rfl hc.enabled
    | _ => simp [QueryCache.clear]

/-- What storing an entry for a template comes to: a template that is evicted is another one, and it
is gone; each other template keeps its entry, or gets the one given for it. -/
structure Stores (c : QueryCache) (template : String) (entry : Entry) (insertion : Insertion) :
    Prop where
  wellFormed : insertion.cache.WellFormed
  gone : ∀ victim, insertion.evicted = some victim →
    victim ≠ template ∧ insertion.cache.peek? victim = none
  kept : ∀ other, insertion.evicted ≠ some other → insertion.cache.peek? other =
    (c.peek? other).or ((CacheOperation.insert template entry).given? other)

/-- A template that is there keeps its entry. -/
theorem WellFormed.stores_of_peek? {c : QueryCache} (hc : c.WellFormed) {template : String}
    {held : Entry} (hpeek : c.peek? template = some held) (entry : Entry) :
    Stores c template entry (c.insert template entry) := by
  have hinsert : c.insert template entry = ⟨held, none, c.touch template⟩ := by
    simp [insert, hpeek]
  rw [hinsert]
  refine ⟨hc.touch template, by simp, fun other _ => ?_⟩
  rw [peek?_touch, CacheOperation.given?]
  by_cases hother : template = other
  · rw [← hother, hpeek, Option.some_or]
  · rw [if_neg hother, Option.or_none]

theorem or_given?_of_absent {c : QueryCache} {template : String} (hpeek : c.peek? template = none)
    (entry : Entry) (other : String) :
    (c.peek? other).or ((CacheOperation.insert template entry).given? other) =
      if other = template then some entry else c.peek? other := by
  rw [CacheOperation.given?]
  by_cases hother : other = template
  · rw [if_pos hother, if_pos hother.symm, hother, hpeek, Option.none_or]
  · rw [if_neg hother, if_neg (Ne.symm hother), Option.or_none]

/-- A template that is not there gets the entry, and when there is no room for it the template used
least recently goes. -/
theorem WellFormed.stores_of_absent {c : QueryCache} (hc : c.WellFormed) {template : String}
    (hpeek : c.peek? template = none) (entry : Entry) :
    Stores c template entry (c.insert template entry) := by
  have hnew : template ∉ c.entries.map Prod.fst := by
    intro hmem
    obtain ⟨e, he, heq⟩ := List.mem_map.mp hmem
    exact ne_of_peek?_eq_none hpeek he heq
  have hgiven := or_given?_of_absent hpeek entry
  obtain ⟨hdistinct, hroom, henabled⟩ := hc
  unfold insert
  rw [hpeek]
  cases c with
  | disabled => exact absurd rfl henabled
  | unbounded entries =>
      refine ⟨⟨?_, hroom, by simp⟩, by simp, fun other _ => ?_⟩
      · show ((entries ++ [(template, entry)]).map Prod.fst).Nodup
        rw [List.map_append, List.nodup_append_comm]
        exact List.nodup_cons.mpr ⟨hnew, hdistinct⟩
      · have hlookup : (QueryCache.unbounded (entries ++ [(template, entry)])).peek? other =
            ((QueryCache.unbounded entries).peek? other).or
              ([(template, entry)].lookup other) := List.lookup_append
        rw [hlookup, lookup_cons_eq, CacheOperation.given?]
        simp only [List.lookup_nil, eq_comm]
  | bounded capacity entries =>
      have hall : (((template, entry) :: entries).map Prod.fst).Nodup :=
        List.nodup_cons.mpr ⟨hnew, hdistinct⟩
      have hlookup := fun other => lookup_cons_eq entries template other entry
      by_cases hfits : entries.length < capacity
      · simp only [hfits, if_true]
        exact ⟨⟨hall, hroom, by simp⟩, by simp, fun other _ =>
          (hlookup other).trans (hgiven other).symm⟩
      · simp only [hfits, if_false]
        -- There is an entry to go, since a capacity is never zero.
        have hne : entries ≠ [] := by
          rintro rfl
          exact hroom (congrArg some (Nat.eq_zero_of_not_pos hfits))
        obtain ⟨front, last, rfl⟩ : ∃ front last, entries = front ++ [last] :=
          ⟨_, _, (List.dropLast_append_getLast hne).symm⟩
        have hdrop : ((template, entry) :: (front ++ [last])).dropLast =
            (template, entry) :: front := by
          rw [← List.cons_append, List.dropLast_concat]
        have hlast : ((template, entry) :: (front ++ [last])).getLast? = some last := by
          rw [← List.cons_append, List.getLast?_append]
          rfl
        rw [hdrop, hlast]
        obtain ⟨hgone, hkept⟩ := @lookup_concat _ ((template, entry) :: front) last hall
        refine ⟨⟨?_, hroom, by simp⟩, fun victim hvictim => ?_, fun other hother => ?_⟩
        · exact hall.sublist (((List.sublist_append_left front [last]).cons_cons _).map Prod.fst)
        · obtain rfl : last.1 = victim := Option.some.inj hvictim
          refine ⟨?_, hgone⟩
          rintro heq
          exact hnew (heq ▸ by simp [QueryCache.entries])
        · have hne : other ≠ last.1 := fun heq => hother (congrArg some heq.symm)
          exact ((hkept other hne).trans (hlookup other)).trans (hgiven other).symm

theorem WellFormed.stores {c : QueryCache} (hc : c.WellFormed) (template : String)
    (entry : Entry) : Stores c template entry (c.insert template entry) := by
  cases hpeek : c.peek? template with
  | some held => exact hc.stores_of_peek? hpeek entry
  | none => exact hc.stores_of_absent hpeek entry

theorem WellFormed.perform {c : QueryCache} (hc : c.WellFormed) (op : CacheOperation) :
    (c.perform op).WellFormed := by
  cases op with
  | get template => exact hc.touch template
  | insert template entry => exact (hc.stores template entry).wellFormed
  | clear => exact hc.clear

theorem WellFormed.after {c : QueryCache} (hc : c.WellFormed) (ops : List CacheOperation) :
    (c.after ops).WellFormed := by
  induction ops generalizing c with
  | nil => exact hc
  | cons op ops ih => exact ih (hc.perform op)

/-- What is taken away is not there. -/
theorem peek?_of_removes {c : QueryCache} (hc : c.WellFormed) {op : CacheOperation}
    {template : String} (hremoves : c.Removes template op) :
    (c.perform op).peek? template = none := by
  cases op with
  | get own => exact hremoves.elim
  | insert own entry => exact ((hc.stores own entry).gone template hremoves).2
  | clear =>
      rw [perform, peek?, entries_clear]
      rfl

/-- What is not taken away stays as it is; a template that has no entry gets the one given. -/
theorem peek?_of_not_removes {c : QueryCache} (hc : c.WellFormed) {op : CacheOperation}
    {template : String} (hkept : ¬c.Removes template op) :
    (c.perform op).peek? template = (c.peek? template).or (op.given? template) := by
  cases op with
  | get own => simp [perform, get, peek?_touch, CacheOperation.given?]
  | insert own entry => exact (hc.stores own entry).kept template hkept
  | clear => exact absurd trivial hkept

/-- A template is not evicted for its own entry. -/
theorem WellFormed.not_removes_insert {c : QueryCache} (hc : c.WellFormed) (template : String)
    (entry : Entry) : ¬c.Removes template (.insert template entry) := by
  intro hremoves
  exact ((hc.stores template entry).gone template hremoves).1 rfl

theorem stored_of_peek? {c : QueryCache} {template : String} {held : Entry}
    (hpeek : c.peek? template = some held) (entry : Entry) :
    (c.insert template entry).stored = held := by
  simp [insert, hpeek]

/-- What storing an entry answers is what the cache then holds. -/
theorem WellFormed.peek?_insert {c : QueryCache} (hc : c.WellFormed) (template : String)
    (entry : Entry) :
    (c.insert template entry).cache.peek? template = some (c.insert template entry).stored := by
  have hpeeks := peek?_of_not_removes hc (hc.not_removes_insert template entry)
  rw [CacheOperation.given?, if_pos rfl] at hpeeks
  refine hpeeks.trans ?_
  cases hpeek : c.peek? template with
  | some held => rw [stored_of_peek? hpeek]; rfl
  | none => rw [stored_of_absent hpeek]; rfl

/-! ## Runs -/

theorem WellFormed.peek?_of_keeps {c : QueryCache} (hc : c.WellFormed) {template : String}
    {held : Entry} (hpeek : c.peek? template = some held) {ops : List CacheOperation}
    (hkeeps : c.Keeps ops template) : (c.after ops).peek? template = some held := by
  induction ops generalizing c with
  | nil => exact hpeek
  | cons op ops ih =>
      obtain ⟨hkept, hkeeps⟩ := hkeeps
      refine ih (hc.perform op) ?_ hkeeps
      rw [peek?_of_not_removes hc hkept, hpeek]
      rfl

/-- Operations split at the one that stored the entry of a template first since the template was
absent; nothing has taken the template away after that. -/
structure FirstInsert (c : QueryCache) (ops : List CacheOperation) (template : String)
    (entry : Entry) (earlier between : List CacheOperation) : Prop where
  whole : ops = earlier ++ .insert template entry :: between
  absent : (c.after earlier).peek? template = none
  kept : (c.after (earlier ++ [.insert template entry])).Keeps between template

/-- What a cache holds for a template is the entry stored first. -/
theorem peek?_after_iff {c : QueryCache} (hc : c.WellFormed) (hempty : c.entries = [])
    {ops : List CacheOperation} {template : String} {entry : Entry} :
    (c.after ops).peek? template = some entry ↔
      ∃ earlier between, FirstInsert c ops template entry earlier between := by
  constructor
  · intro hpeek
    induction ops using List.reverseRecOn with
    | nil => simp [after, peek?, hempty] at hpeek
    | append_singleton ops last ih =>
        rw [after_append_singleton] at hpeek
        have hkept : ¬(c.after ops).Removes template last := by
          intro hremoves
          rw [peek?_of_removes (hc.after ops) hremoves] at hpeek
          exact absurd hpeek (by simp)
        rw [peek?_of_not_removes (hc.after ops) hkept] at hpeek
        cases hbefore : (c.after ops).peek? template with
        | some held =>
            obtain rfl : held = entry := by simpa [hbefore] using hpeek
            obtain ⟨earlier, between, hwhole, habsent, hkeeps⟩ := ih hbefore
            refine ⟨earlier, between ++ [last], by simp [hwhole], habsent, ?_⟩
            have hops : (c.after (earlier ++ [.insert template held])).after between =
                c.after ops := by
              rw [hwhole, after, after, ← List.foldl_append, List.append_assoc]
              rfl
            exact keeps_append_singleton.mpr ⟨hkeeps, by rwa [hops]⟩
        | none =>
            rw [hbefore, Option.none_or, CacheOperation.given?_eq_some_iff] at hpeek
            exact ⟨ops, [], by rw [hpeek], hbefore, trivial⟩
  · rintro ⟨earlier, between, rfl, habsent, hkeeps⟩
    have hafter : c.after (earlier ++ .insert template entry :: between) =
        (c.after (earlier ++ [.insert template entry])).after between := by
      simp [after]
    rw [hafter]
    refine (hc.after _).peek?_of_keeps ?_ hkeeps
    rw [after_append_singleton, perform, (hc.after earlier).peek?_insert,
      stored_of_absent habsent]

/-- Two entries stored for a template that stays in between get the same answer. -/
theorem WellFormed.stored_eq {c : QueryCache} (hc : c.WellFormed) {template : String}
    (first second : Entry) {between : List CacheOperation}
    (hkeeps : (c.insert template first).cache.Keeps between template) :
    (((c.insert template first).cache.after between).insert template second).stored =
      (c.insert template first).stored :=
  stored_of_peek? ((hc.perform (.insert template first)).peek?_of_keeps
    (hc.peek?_insert template first) hkeeps) second

/-- A cache counts each template that it has once. -/
theorem WellFormed.size_eq {c : QueryCache} (hc : c.WellFormed) :
    ∃ resident : Finset String, c.size = resident.card ∧
      ∀ template, template ∈ resident ↔ ∃ entry, c.peek? template = some entry := by
  refine ⟨(c.entries.map Prod.fst).toFinset, ?_, fun template => ?_⟩
  · rw [List.toFinset_card_of_nodup hc.distinct, List.length_map, size]
  · rw [List.mem_toFinset, List.mem_map]
    constructor
    · rintro ⟨e, he, rfl⟩
      exact exists_peek?_of_mem he
    · rintro ⟨entry, hpeek⟩
      exact ⟨_, mem_of_peek? hpeek, rfl⟩

/-! ## Overlapping calls -/

/-- The part of parsing a template that comes after the look-up, whose answer is given. -/
def parseLookedUp (c : QueryCache) (s : Style) (id : Nat) (template : String) :
    Option Entry → Except Failure Entry × QueryCache
  | some entry => (.ok entry, c)
  | none =>
    match Query.ofTemplate s template with
    | .error failure => (.error (parseFailure template failure), c)
    | .ok query =>
      let insertion := c.insert template ⟨id, query⟩
      (.ok insertion.stored, insertion.cache)

/-- Parsing a template is a look-up with nothing between it and the rest. -/
theorem parse_eq_parseLookedUp (c : QueryCache) (s : Style) (nextId : Nat) (template : String) :
    ((c.parse s nextId template).result, (c.parse s nextId template).cache) =
      (c.get template).2.parseLookedUp s nextId template (c.get template).1 := by
  unfold parse parseLookedUp get
  cases c.peek? template with
  | some entry => rfl
  | none =>
      simp only
      cases Query.ofTemplate s template <;> rfl

/-- Two calls that both missed a template agree when it stays between their ends. -/
theorem WellFormed.overlapping_parses_agree {c : QueryCache} (hc : c.WellFormed) (s : Style)
    (id id' : Nat) {template : String} {between : List CacheOperation}
    (hkeeps : (c.parseLookedUp s id template none).2.Keeps between template) :
    (((c.parseLookedUp s id template none).2.after between).parseLookedUp s id' template none).1 =
      (c.parseLookedUp s id template none).1 := by
  unfold parseLookedUp at hkeeps ⊢
  cases hquery : Query.ofTemplate s template with
  | error failure => rfl
  | ok query =>
      simp only [hquery] at hkeeps ⊢
      rw [hc.stored_eq ⟨id, query⟩ ⟨id', query⟩ hkeeps]

end QueryCache

open QueryCache

/-- Whatever is done to a cache that started empty, a look-up that succeeds gives the entry that the
first storing since the template was last absent was given, and so does every storing while nothing
has taken the template away. Each template that is there counts once, and storing an entry changes
that of no other template which stays. Two calls that overlap, so that both miss the template, end
with the same entry, unless it was taken away between their ends. -/
theorem first_insert_canonical {c : QueryCache} (hc : c.Started) (ops : List CacheOperation)
    (template : String) :
    let p := c.after ops
    (∀ entry, (p.get template).1 = some entry ↔
      ∃ earlier between, FirstInsert c ops template entry earlier between) ∧
    (∀ entry earlier between, FirstInsert c ops template entry earlier between →
      ∀ given, (p.insert template given).stored = entry) ∧
    (p.peek? template = none → ∀ given, (p.insert template given).stored = given) ∧
    (∃ resident : Finset String, p.size = resident.card ∧
      ∀ t, t ∈ resident ↔ ∃ entry, p.peek? t = some entry) ∧
    (∀ given other held, other ≠ template →
      (p.insert template given).cache.peek? other = some held → p.peek? other = some held) ∧
    (∀ (s : Style) (id id' : Nat) (ahead behind between : List CacheOperation),
      let looked := p.get template
      let looked' := (looked.2.after ahead).get template
      let first := (looked'.2.after behind).parseLookedUp s id template looked.1
      let second := (first.2.after between).parseLookedUp s id' template looked'.1
      looked.1 = none → looked'.1 = none → first.2.Keeps between template →
        second.1 = first.1) := by
  intro p
  have hp : p.WellFormed := hc.wellFormed.after ops
  have hpeek : ∀ entry, p.peek? template = some entry ↔
      ∃ earlier between, FirstInsert c ops template entry earlier between :=
    fun _ => peek?_after_iff hc.wellFormed hc.entries
  refine ⟨hpeek, ?_, fun habsent _ => stored_of_absent habsent, hp.size_eq, ?_, ?_⟩
  · intro entry earlier between hfirst given
    exact stored_of_peek? ((hpeek entry).mpr ⟨earlier, between, hfirst⟩) given
  · intro given other held hother hafter
    have hkept : ¬p.Removes other (.insert template given) := by
      intro hremoves
      have hgone := peek?_of_removes hp hremoves
      exact absurd (hafter.symm.trans hgone) (by simp)
    have hstays := peek?_of_not_removes hp hkept
    rw [CacheOperation.given?, if_neg (Ne.symm hother), Option.or_none] at hstays
    exact hstays.symm.trans hafter
  · intro s id id' ahead behind between looked looked' first second hmiss hmiss' hkeeps
    have hlooked : (looked'.2.after behind).WellFormed :=
      (((hp.perform (.get template)).after ahead).perform (.get template)).after behind
    simp only [second, first, hmiss, hmiss'] at hkeeps ⊢
    exact hlooked.overlapping_parses_agree s id id' hkeeps

/-- Two calls overlap, and another template is stored between their ends. -/
theorem first_insert_canonical_overlapping :
    (ofCapacity 2).Started ∧
    let c := (ofCapacity 2).after [.insert "#b" ⟨0, ⟨"?", .named ["b"]⟩⟩]
    let first := c.parseLookedUp .hash 1 "#a" none
    let second := (first.2.after [.insert "#c" ⟨2, ⟨"?", .named ["c"]⟩⟩]).parseLookedUp .hash 3
      "#a" none
    first.1 = .ok ⟨1, ⟨"?", .named ["a"]⟩⟩ ∧ second.1 = first.1 ∧
      (c.insert "#b" ⟨4, ⟨"", .positional 0⟩⟩).stored = ⟨0, ⟨"?", .named ["b"]⟩⟩ := by
  have ha : Query.ofTemplate .hash "#a" = .ok ⟨"?", .named ["a"]⟩ := by cbv
  have hstarted : (ofCapacity 2).Started := .inr ⟨2, rfl⟩
  refine ⟨hstarted, ?_⟩
  intro c first second
  have hfirst : first = (.ok ⟨1, ⟨"?", .named ["a"]⟩⟩, .bounded 2
      [("#a", ⟨1, ⟨"?", .named ["a"]⟩⟩), ("#b", ⟨0, ⟨"?", .named ["b"]⟩⟩)]) := by
    simp only [first, parseLookedUp, ha]
    rfl
  have hkeeps : first.2.Keeps [.insert "#c" ⟨2, ⟨"?", .named ["c"]⟩⟩] "#a" := by
    rw [hfirst, Keeps]
    exact ⟨by decide, trivial⟩
  refine ⟨by rw [hfirst], ?_, ?_⟩
  · have hoverlap := (first_insert_canonical hstarted [.insert "#b" ⟨0, ⟨"?", .named ["b"]⟩⟩]
      "#a").2.2.2.2.2 .hash 1 3 [] [] [.insert "#c" ⟨2, ⟨"?", .named ["c"]⟩⟩] rfl rfl
    exact hoverlap hkeeps
  · exact (first_insert_canonical hstarted [.insert "#b" ⟨0, ⟨"?", .named ["b"]⟩⟩] "#b").2.1 _ [] []
      ⟨rfl, rfl, trivial⟩ _

end SqlTemplate
