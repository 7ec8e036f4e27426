import SqlTemplate.Proofs.CacheTransparency

/-!
# A bounded cache holds what was used last

The templates in a bounded cache are the front of the recency list, which has every template that
was parsed since the cache was cleared, the one used last in front. So a template is still there
when fewer other templates than the capacity were parsed since its latest use, and then its entry is
that of the latest use. Every other entry is new: identities are only counted up.
-/

namespace SqlTemplate

/-! ## The recency list -/

/-- A list with an element brought to its front. -/
def used (template : String) (recent : List String) : List String :=
  template :: recent.filter (· != template)

theorem take_filter_of_not_mem {a : String} {l : List String} {n : Nat} (ha : a ∉ l.take n) :
    (l.filter (· != a)).take n = l.take n := by
  induction l generalizing n with
  | nil => rfl
  | cons b l ih =>
      cases n with
      | zero => rfl
      | succ n =>
          rw [List.take_succ_cons, List.mem_cons, not_or] at ha
          rw [List.filter_cons_of_pos (by simpa using Ne.symm ha.1), List.take_succ_cons,
            List.take_succ_cons, ih ha.2]

theorem filter_take_of_mem {a : String} {l : List String} (hnodup : l.Nodup) {n : Nat}
    (ha : a ∈ l.take (n + 1)) : (l.take (n + 1)).filter (· != a) = (l.filter (· != a)).take n := by
  induction l generalizing n with
  | nil => simp at ha
  | cons b l ih =>
      rw [List.nodup_cons] at hnodup
      rw [List.take_succ_cons] at ha ⊢
      by_cases hb : b = a
      · subst hb
        have hl : b ∉ l.take n := fun h => hnodup.1 (List.mem_of_mem_take h)
        rw [List.filter_cons_of_neg (by simp), List.filter_cons_of_neg (by simp),
          take_filter_of_not_mem hl, List.filter_eq_self]
        intro c hc
        rw [bne_iff_ne]
        rintro rfl
        exact hl hc
      · have ha : a ∈ l.take n := (List.mem_cons.mp ha).resolve_left (Ne.symm hb)
        cases n with
        | zero => simp at ha
        | succ n =>
            rw [List.filter_cons_of_pos (by simpa using hb),
              List.filter_cons_of_pos (by simpa using hb), List.take_succ_cons, ih hnodup.2 ha]

/-- The front of a list keeps up with a use of one of its elements. -/
theorem used_take_of_mem {a : String} {l : List String} (hnodup : l.Nodup) {n : Nat}
    (ha : a ∈ l.take n) : used a (l.take n) = (used a l).take n := by
  cases n with
  | zero => simp at ha
  | succ n => rw [used, used, List.take_succ_cons, filter_take_of_mem hnodup ha]

/-- The front of a list keeps up with the use of an element that it does not have when its own last
element goes. -/
theorem cons_take_of_not_mem {a : String} {l : List String} {n : Nat} (ha : a ∉ l.take n) :
    (a :: l.take n).take n = (used a l).take n := by
  cases n with
  | zero => rfl
  | succ n =>
      have ha' : a ∉ l.take n := fun h => ha (List.take_subset_take_left l (Nat.le_succ n) h)
      rw [used, List.take_succ_cons, List.take_succ_cons, List.take_take,
        take_filter_of_not_mem ha', Nat.min_eq_left (Nat.le_succ n)]

/-- Whether a template has a query. -/
def accepted (s : Style) (template : String) : Bool :=
  (Query.ofTemplate s template).toBool

theorem accepted_iff {s : Style} {template : String} :
    accepted s template = true ↔ ∃ query, Query.ofTemplate s template = .ok query := by
  unfold accepted
  cases Query.ofTemplate s template <;> simp [Except.toBool]

/-- The recency list after a call. -/
def recencyStep (s : Style) (recent : List String) : ParserCall → List String
  | .parse template => if accepted s template then used template recent else recent
  | .clear => []

/-- The templates that were parsed since the last clearing, the one used last in front. -/
def recency (s : Style) (calls : List ParserCall) : List String :=
  calls.foldl (recencyStep s) []

theorem recency_append_singleton (s : Style) (calls : List ParserCall) (last : ParserCall) :
    recency s (calls ++ [last]) = recencyStep s (recency s calls) last := by
  rw [recency, recency, List.foldl_append]
  rfl

theorem nodup_recency (s : Style) (calls : List ParserCall) : (recency s calls).Nodup := by
  induction calls using List.reverseRecOn with
  | nil => exact List.nodup_nil
  | append_singleton calls last ih =>
      rw [recency_append_singleton]
      cases last with
      | clear => exact List.nodup_nil
      | parse template =>
          by_cases haccepted : accepted s template = true
          · rw [recencyStep, if_pos haccepted]
            exact List.nodup_cons.mpr ⟨by simp, ih.filter _⟩
          · rwa [recencyStep, if_neg haccepted]

/-! ## The latest use of a template -/

/-- The calls split at the latest parsing of a template, since which the cache was not cleared. -/
structure LatestParse (calls : List ParserCall) (template : String)
    (earlier between : List ParserCall) : Prop where
  whole : calls = earlier ++ .parse template :: between
  notAgain : .parse template ∉ between
  notCleared : .clear ∉ between

/-- The different templates with a query that were parsed in a sequence of calls. -/
def parsedIn (s : Style) (calls : List ParserCall) : Finset String :=
  (calls.filterMap fun
    | .parse template => if accepted s template then some template else none
    | .clear => none).toFinset

theorem parsedIn_append_parse (s : Style) (calls : List ParserCall) (template : String) :
    parsedIn s (calls ++ [.parse template]) =
      if accepted s template then insert template (parsedIn s calls) else parsedIn s calls := by
  unfold parsedIn
  rw [List.filterMap_append, List.toFinset_append]
  split <;> simp_all

theorem LatestParse.here (calls : List ParserCall) (template : String) :
    LatestParse (calls ++ [.parse template]) template calls [] :=
  ⟨rfl, by simp, by simp⟩

/-- The latest parsing of a template stays that when another one is parsed. -/
theorem LatestParse.append {calls earlier between : List ParserCall} {template other : String}
    (hlatest : LatestParse calls template earlier between) (hother : other ≠ template) :
    LatestParse (calls ++ [.parse other]) template earlier (between ++ [.parse other]) := by
  obtain ⟨rfl, hagain, hcleared⟩ := hlatest
  refine ⟨by simp, ?_, by simp [hcleared]⟩
  rw [List.mem_append, List.mem_singleton, not_or]
  exact ⟨hagain, fun h => hother (ParserCall.parse.inj h).symm⟩

/-- Only one call is the latest. -/
theorem LatestParse.unique {calls earlier between earlier' between' : List ParserCall}
    {template : String} (hlatest : LatestParse calls template earlier between)
    (hlatest' : LatestParse calls template earlier' between') :
    earlier = earlier' ∧ between = between' := by
  have hwhole := hlatest.whole.symm.trans hlatest'.whole
  rcases List.append_eq_append_iff.mp hwhole with
    ⟨shared, hearlier, hrest⟩ | ⟨shared, hearlier, hrest⟩
  · cases shared with
    | nil => exact ⟨by rw [hearlier, List.append_nil], (List.cons.inj hrest).2⟩
    | cons call shared =>
        obtain ⟨-, hbetween⟩ := List.cons.inj hrest
        exact absurd (by rw [hbetween]; simp) hlatest.notAgain
  · cases shared with
    | nil => exact ⟨by rw [hearlier, List.append_nil], (List.cons.inj hrest).2.symm⟩
    | cons call shared =>
        obtain ⟨-, hbetween⟩ := List.cons.inj hrest
        exact absurd (by rw [hbetween]; simp) hlatest'.notAgain

section

variable {s : Style} {calls earlier between : List ParserCall} {template : String}

/-- In front of a template in the recency list are the other ones parsed since its latest use. -/
theorem LatestParse.recency_eq (hlatest : LatestParse calls template earlier between)
    (haccepted : accepted s template = true) :
    ∃ front back, recency s calls = front ++ template :: back ∧ template ∉ front ∧
      front.toFinset = parsedIn s between := by
  obtain ⟨rfl, hagain, hcleared⟩ := hlatest
  induction between using List.reverseRecOn with
  | nil =>
      refine ⟨[], (recency s earlier).filter (· != template), ?_, by simp, rfl⟩
      rw [recency_append_singleton, recencyStep, if_pos haccepted]
      rfl
  | append_singleton between last ih =>
      rw [List.mem_append, List.mem_singleton, not_or] at hagain hcleared
      obtain ⟨front, back, hrecency, hfront, hparsed⟩ := ih hagain.1 hcleared.1
      have hsplit : earlier ++ .parse template :: (between ++ [last]) =
          (earlier ++ .parse template :: between) ++ [last] := by simp
      rw [hsplit, recency_append_singleton, hrecency]
      cases last with
      | clear => exact absurd rfl hcleared.2
      | parse other =>
          have hother : template ≠ other := fun h => hagain.2 (h ▸ rfl)
          rw [parsedIn_append_parse, ← hparsed, recencyStep]
          by_cases hok : accepted s other = true
          · rw [if_pos hok, if_pos hok]
            refine ⟨other :: front.filter (· != other), back.filter (· != other), ?_, ?_, ?_⟩
            · rw [used, List.filter_append, List.filter_cons_of_pos (by simpa using hother)]
              rfl
            · simp [hother, hfront]
            · ext u
              by_cases hu : u = other <;> simp [hu]
          · rw [if_neg hok, if_neg hok]
            exact ⟨front, back, rfl, hfront, rfl⟩

/-- A template in the recency list has a latest use, and it has a query. -/
theorem exists_latestParse (hmem : template ∈ recency s calls) :
    accepted s template = true ∧ ∃ earlier between, LatestParse calls template earlier between := by
  induction calls using List.reverseRecOn with
  | nil => simp [recency] at hmem
  | append_singleton calls last ih =>
      rw [recency_append_singleton] at hmem
      cases last with
      | clear => simp [recencyStep] at hmem
      | parse other =>
          by_cases hother : other = template
          · subst hother
            refine ⟨?_, calls, [], .here calls other⟩
            by_contra hfails
            rw [recencyStep, if_neg hfails] at hmem
            exact hfails (ih hmem).1
          · have hbefore : template ∈ recency s calls := by
              by_cases hok : accepted s other = true
              · rw [recencyStep, if_pos hok] at hmem
                rcases List.mem_cons.mp hmem with heq | hmem
                · exact absurd heq.symm hother
                · exact List.mem_of_mem_filter hmem
              · rwa [recencyStep, if_neg hok] at hmem
            obtain ⟨haccepted, earlier, between, hlatest⟩ := ih hbefore
            exact ⟨haccepted, earlier, _, hlatest.append hother⟩

/-- A template is among the first of the recency list when not more than so many others were parsed
since its latest use. -/
theorem mem_take_recency_iff {capacity : Nat} :
    template ∈ (recency s calls).take capacity ↔
      accepted s template = true ∧ ∃ earlier between,
        LatestParse calls template earlier between ∧ (parsedIn s between).card < capacity := by
  have hcard : ∀ {front back : List String}, recency s calls = front ++ back →
      front.toFinset.card = front.length := by
    intro front back hrecency
    have hnodup := nodup_recency s calls
    rw [hrecency] at hnodup
    exact List.toFinset_card_of_nodup hnodup.of_append_left
  constructor
  · intro hmem
    obtain ⟨haccepted, earlier, between, hlatest⟩ := exists_latestParse (List.mem_of_mem_take hmem)
    refine ⟨haccepted, earlier, between, hlatest, ?_⟩
    obtain ⟨front, back, hrecency, hfront, hparsed⟩ := hlatest.recency_eq haccepted
    rw [← hparsed, hcard hrecency]
    by_contra hfar
    rw [hrecency, List.take_append_of_le_length (Nat.le_of_not_lt hfar)] at hmem
    exact hfront (List.mem_of_mem_take hmem)
  · rintro ⟨haccepted, earlier, between, hlatest, hfew⟩
    obtain ⟨front, back, hrecency, -, hparsed⟩ := hlatest.recency_eq haccepted
    rw [← hparsed, hcard hrecency] at hfew
    obtain ⟨n, rfl⟩ := Nat.exists_eq_add_of_lt hfew
    rw [hrecency, List.mem_take_iff_getElem]
    exact ⟨front.length, by simp, by simp⟩

end

/-! ## What a bounded cache holds -/

namespace QueryCache

theorem fst_touch {capacity : Nat} {entries : List (String × Entry)} {template : String}
    {entry : Entry} (hpeek : (bounded capacity entries).peek? template = some entry) :
    ∃ entries', (bounded capacity entries).touch template = bounded capacity entries' ∧
      entries'.map Prod.fst = used template (entries.map Prod.fst) := by
  have hlookup : entries.lookup template = some entry := hpeek
  refine ⟨(template, entry) :: entries.filter (·.1 != template), ?_, ?_⟩
  · simp [touch, hlookup]
  · rw [List.map_cons, used, List.filter_map]
    rfl

/-- A new template goes to the front, and the last one goes when the cache was full. -/
theorem fst_insert {capacity : Nat} {entries : List (String × Entry)} {template : String}
    (entry : Entry) (hpeek : (bounded capacity entries).peek? template = none)
    (hsize : entries.length ≤ capacity) :
    ∃ entries', ((bounded capacity entries).insert template entry).cache =
        bounded capacity entries' ∧
      entries'.map Prod.fst = (template :: entries.map Prod.fst).take capacity := by
  unfold insert
  rw [hpeek]
  by_cases hroom : entries.length < capacity
  · refine ⟨(template, entry) :: entries, by simp [hroom], ?_⟩
    rw [List.take_of_length_le (by simpa using hroom), List.map_cons]
  · refine ⟨((template, entry) :: entries).dropLast, by simp [hroom], ?_⟩
    have hfull : entries.length = capacity := by omega
    rw [List.dropLast_eq_take, List.map_take, List.map_cons, List.length_cons,
      Nat.add_sub_cancel, hfull]

/-- Parsing a template changes the entry of no other one. -/
theorem mem_of_mem_parse {s : Style} {c : QueryCache} {nextId : Nat} {template other : String}
    {entry : Entry} (hmem : (template, entry) ∈ (c.parse s nextId other).cache.entries)
    (hother : other ≠ template) : (template, entry) ∈ c.entries := by
  have hparses := parses_parse s c nextId other
  generalize c.parse s nextId other = outcome at hparses hmem
  cases hparses with
  | hit => exact mem_of_mem_touch hmem
  | fault => exact hmem
  | new =>
      rcases mem_of_mem_insert hmem with hnew | hmem
      · exact absurd (congrArg Prod.fst hnew).symm hother
      · exact hmem

/-- The entry that a bounded cache has for a template just parsed is the one it answered. -/
theorem result_of_mem_parse {s : Style} {capacity : Nat} {entries : List (String × Entry)}
    {nextId : Nat} {template : String} {entry : Entry}
    (hmem : (template, entry) ∈
      ((bounded capacity entries).parse s nextId template).cache.entries) :
    ((bounded capacity entries).parse s nextId template).result = .ok entry := by
  have hparses := parses_parse s (bounded capacity entries) nextId template
  generalize (bounded capacity entries).parse s nextId template = outcome at hparses hmem
  cases hparses with
  | @hit held _ hpeek =>
      have hlookup : entries.lookup template = some held := hpeek
      simp only [touch, hlookup] at hmem
      rcases List.mem_cons.mp hmem with hheld | hmem
      · rw [(Prod.mk.inj hheld).2]
      · have hne := List.of_mem_filter hmem
        simp at hne
  | fault hpeek => exact absurd rfl (ne_of_peek?_eq_none hpeek hmem)
  | new hpeek =>
      rcases mem_of_mem_insert hmem with hnew | hmem
      · rw [(Prod.mk.inj hnew).2]
      · exact absurd rfl (ne_of_peek?_eq_none hpeek hmem)

end QueryCache

namespace Parser

/-- The templates in a bounded cache are the front of the recency list. -/
theorem fst_entries_after (s : Style) (capacity nextId : Nat) (calls : List ParserCall) :
    ∃ entries,
      ((Parser.mk s (.bounded capacity []) nextId).after calls).cache = .bounded capacity entries ∧
      entries.map Prod.fst = (recency s calls).take capacity := by
  induction calls using List.reverseRecOn with
  | nil => exact ⟨[], rfl, by simp [recency]⟩
  | append_singleton calls last ih =>
      obtain ⟨entries, hcache, hfst⟩ := ih
      have hfaithful :=
        (reached_after (p := ⟨s, .bounded capacity [], nextId⟩) (.empty rfl) calls).faithful
      have hstyle := style_after ⟨s, .bounded capacity [], nextId⟩ calls
      rw [after_append_singleton, recency_append_singleton]
      generalize (Parser.mk s (.bounded capacity []) nextId).after calls = p at *
      obtain ⟨style, cache, nextId'⟩ := p
      subst hcache hstyle
      cases last with
      | clear => exact ⟨[], rfl, by simp [recencyStep]⟩
      | parse template =>
          have hparses :=
            QueryCache.parses_parse style (.bounded capacity entries) nextId' template
          rw [call]
          generalize (QueryCache.bounded capacity entries).parse style nextId' template = outcome
            at hparses
          cases hparses with
          | @hit entry _ hpeek =>
              have hmem : (template, entry) ∈ entries := QueryCache.mem_of_peek? hpeek
              have hok : accepted style template = true :=
                accepted_iff.mpr ⟨entry.query, hfaithful template entry hmem⟩
              have hrecent : template ∈ (recency style calls).take capacity :=
                hfst ▸ List.mem_map_of_mem hmem
              obtain ⟨entries', htouch, hfst'⟩ := QueryCache.fst_touch hpeek
              refine ⟨entries', htouch, ?_⟩
              rw [hfst', hfst, used_take_of_mem (nodup_recency _ calls) hrecent, recencyStep,
                if_pos hok]
          | fault _ hquery =>
              have hfails : ¬accepted style template = true := by
                rw [accepted_iff, hquery]
                rintro ⟨query, hquery⟩
                cases hquery
              exact ⟨entries, rfl, by rw [recencyStep, if_neg hfails, hfst]⟩
          | @new query _ hpeek hquery =>
              have habsent : template ∉ (recency style calls).take capacity := by
                intro hmem
                rw [← hfst] at hmem
                obtain ⟨e, hmem, heq⟩ := List.mem_map.mp hmem
                exact QueryCache.ne_of_peek?_eq_none hpeek hmem heq
              have hsize : entries.length ≤ capacity := by
                rw [← List.length_map (f := Prod.fst), hfst]
                exact List.length_take_le _ _
              obtain ⟨entries', hinsert, hfst'⟩ :=
                QueryCache.fst_insert ⟨nextId', query⟩ hpeek hsize
              refine ⟨entries', hinsert, ?_⟩
              rw [hfst', hfst, cons_take_of_not_mem habsent, recencyStep,
                if_pos (accepted_iff.mpr ⟨query, hquery⟩)]

/-- What a bounded cache holds for a template is what its latest parsing answered. -/
theorem latestParse_of_mem {s : Style} {capacity nextId : Nat} {calls : List ParserCall}
    {template : String} {entry : Entry}
    (hmem : (template, entry) ∈
      ((Parser.mk s (.bounded capacity []) nextId).after calls).cache.entries) :
    ∃ earlier between, LatestParse calls template earlier between ∧
      ((Parser.mk s (.bounded capacity []) nextId).after earlier).answer template = .ok entry := by
  induction calls using List.reverseRecOn with
  | nil => simp [after, QueryCache.entries] at hmem
  | append_singleton calls last ih =>
      rw [after_append_singleton] at hmem
      cases last with
      | clear => simp [call, QueryCache.entries_clear] at hmem
      | parse other =>
          by_cases hother : other = template
          · subst hother
            refine ⟨calls, [], .here calls other, ?_⟩
            obtain ⟨entries, hcache, -⟩ := fst_entries_after s capacity nextId calls
            rw [call, hcache] at hmem
            rw [answer, hcache]
            exact QueryCache.result_of_mem_parse hmem
          · obtain ⟨earlier, between, hlatest, hanswer⟩ :=
              ih (QueryCache.mem_of_mem_parse hmem hother)
            exact ⟨earlier, _, hlatest.append hother, hanswer⟩

/-! ## Identities -/

/-- Whether the identities of the entries held have been given out. -/
def Issued (p : Parser) : Prop :=
  ∀ e ∈ p.cache.entries, e.2.id < p.nextId

theorem nextId_le_call (p : Parser) (call : ParserCall) : p.nextId ≤ (p.call call).nextId := by
  cases call with
  | clear => exact Nat.le_refl _
  | parse template =>
      have hparses := QueryCache.parses_parse p.style p.cache p.nextId template
      rw [Parser.call]
      generalize p.cache.parse p.style p.nextId template = outcome at hparses
      cases hparses with
      | hit => exact Nat.le_refl _
      | fault => exact Nat.le_refl _
      | new => exact Nat.le_succ _

theorem nextId_le_after (p : Parser) (calls : List ParserCall) :
    p.nextId ≤ (p.after calls).nextId := by
  induction calls generalizing p with
  | nil => exact Nat.le_refl _
  | cons call calls ih => exact (p.nextId_le_call call).trans (ih (p.call call))

/-- An answer has an identity that has been given out. -/
theorem Issued.answer_lt {p : Parser} (hp : p.Issued) {template : String} {entry : Entry}
    (hanswer : p.answer template = .ok entry) :
    entry.id < (p.call (.parse template)).nextId := by
  have hparses := QueryCache.parses_parse p.style p.cache p.nextId template
  rw [answer] at hanswer
  rw [call]
  generalize p.cache.parse p.style p.nextId template = outcome at hparses hanswer
  cases hparses with
  | hit hpeek =>
      obtain rfl := Except.ok.inj hanswer
      exact hp _ (QueryCache.mem_of_peek? hpeek)
  | fault => cases hanswer
  | new =>
      obtain rfl := Except.ok.inj hanswer
      exact Nat.lt_succ_self _

theorem Issued.call {p : Parser} (hp : p.Issued) (call : ParserCall) : (p.call call).Issued := by
  cases call with
  | clear =>
      intro e hmem
      rw [Parser.call, QueryCache.entries_clear] at hmem
      exact absurd hmem (by simp)
  | parse template =>
      have hparses := QueryCache.parses_parse p.style p.cache p.nextId template
      rw [Parser.call]
      generalize p.cache.parse p.style p.nextId template = outcome at hparses
      cases hparses with
      | hit => exact fun e hmem => hp e (QueryCache.mem_of_mem_touch hmem)
      | fault => exact hp
      | new =>
          intro e hmem
          rcases QueryCache.mem_of_mem_insert hmem with rfl | hmem
          · exact Nat.lt_succ_self _
          · exact Nat.lt_succ_of_lt (hp e hmem)

theorem Issued.after {p : Parser} (hp : p.Issued) (calls : List ParserCall) :
    (p.after calls).Issued := by
  induction calls generalizing p with
  | nil => exact hp
  | cons call calls ih => exact ih (hp.call call)

/-- The identity of an earlier answer is not given out again. -/
theorem Issued.answer_lt_after {p : Parser} (hp : p.Issued)
    {calls earlier between : List ParserCall} {template : String} {entry : Entry}
    (hcalls : calls = earlier ++ .parse template :: between)
    (hanswer : (p.after earlier).answer template = .ok entry) :
    entry.id < (p.after calls).nextId := by
  have hlt := (hp.after earlier).answer_lt hanswer
  have hle := ((p.after earlier).call (.parse template)).nextId_le_after between
  have hafter : p.after calls = ((p.after earlier).call (.parse template)).after between := by
    rw [hcalls, Parser.after, List.foldl_append]
    rfl
  rw [hafter]
  exact Nat.lt_of_lt_of_le hlt hle

end Parser

/-! ## Sharing -/

/-- Whether a template has a query and was parsed since the last clearing, with fewer than
`capacity` different other templates after that. -/
def RecentlyParsed (s : Style) (capacity : Nat) (calls : List ParserCall) (template : String) :
    Prop :=
  (∃ query, Query.ofTemplate s template = .ok query) ∧
    ∃ earlier between, LatestParse calls template earlier between ∧
      (parsedIn s between).card < capacity

section

variable {s : Style} {capacity nextId : Nat} {calls : List ParserCall} {template : String}

theorem RecentlyParsed.mem_entries (hrecent : RecentlyParsed s capacity calls template)
    (nextId : Nat) :
    ∃ entry, (template, entry) ∈
      ((Parser.mk s (.bounded capacity []) nextId).after calls).cache.entries := by
  obtain ⟨entries, hcache, hfst⟩ := Parser.fst_entries_after s capacity nextId calls
  have hmem : template ∈ entries.map Prod.fst := by
    rw [hfst]
    exact mem_take_recency_iff.mpr ⟨accepted_iff.mpr hrecent.1, hrecent.2⟩
  obtain ⟨⟨t, entry⟩, hmem, rfl⟩ := List.mem_map.mp hmem
  exact ⟨entry, by rwa [hcache]⟩

theorem recentlyParsed_of_mem_entries {entry : Entry}
    (hmem : (template, entry) ∈
      ((Parser.mk s (.bounded capacity []) nextId).after calls).cache.entries) :
    RecentlyParsed s capacity calls template := by
  obtain ⟨entries, hcache, hfst⟩ := Parser.fst_entries_after s capacity nextId calls
  rw [hcache] at hmem
  have hrecent : template ∈ (recency s calls).take capacity :=
    hfst ▸ List.mem_map_of_mem (f := Prod.fst) hmem
  obtain ⟨hok, hlatest⟩ := mem_take_recency_iff.mp hrecent
  exact ⟨accepted_iff.mp hok, hlatest⟩

/-- What was parsed recently gets the answer of its latest parsing. -/
theorem RecentlyParsed.answer_eq (hrecent : RecentlyParsed s capacity calls template)
    {earlier between : List ParserCall} (hlatest : LatestParse calls template earlier between) :
    ∃ entry,
      ((Parser.mk s (.bounded capacity []) nextId).after earlier).answer template = .ok entry ∧
      ((Parser.mk s (.bounded capacity []) nextId).after calls).answer template = .ok entry := by
  obtain ⟨held, hmem⟩ := hrecent.mem_entries nextId
  obtain ⟨entry, hpeek⟩ := QueryCache.exists_peek?_of_mem hmem
  obtain ⟨earlier', between', hlatest', hanswer⟩ :=
    Parser.latestParse_of_mem (QueryCache.mem_of_peek? hpeek)
  refine ⟨entry, (hlatest'.unique hlatest).1 ▸ hanswer, ?_⟩
  rw [Parser.answer, QueryCache.parse, QueryCache.get, hpeek]

/-- What was not parsed recently gets a new entry. -/
theorem answer_of_not_recentlyParsed (hrecent : ¬RecentlyParsed s capacity calls template)
    {query : Query} (hquery : Query.ofTemplate s template = .ok query) :
    let p := (Parser.mk s (.bounded capacity []) nextId).after calls
    p.answer template = .ok ⟨p.nextId, query⟩ := by
  intro p
  have hstyle : p.style = s := Parser.style_after _ calls
  have hparses := QueryCache.parses_parse p.style p.cache p.nextId template
  rw [Parser.answer]
  generalize p.cache.parse p.style p.nextId template = outcome at hparses
  rw [← hstyle] at hquery
  cases hparses with
  | hit hpeek =>
      exact absurd (recentlyParsed_of_mem_entries (QueryCache.mem_of_peek? hpeek)) hrecent
  | fault _ hfault => cases hquery.symm.trans hfault
  | new _ hquery' => rw [Except.ok.inj (hquery.symm.trans hquery')]

end

/-- A bounded cache never has more entries than its capacity. A template gets the entry of an
earlier parsing exactly when it was parsed recently, and then it is that of the latest one.
Otherwise a template with a query gets an entry that no call had before. -/
theorem bounded_shares_iff_recent (s : Style) {capacity : Nat} (hcapacity : 1 ≤ capacity)
    (nextId : Nat) (calls : List ParserCall) (template : String) :
    let p := (Parser.mk s (.ofCapacity capacity) nextId).after
    (p calls).cache.size ≤ capacity ∧
    ((∃ earlier between entry, calls = earlier ++ .parse template :: between ∧
        (p earlier).answer template = .ok entry ∧ (p calls).answer template = .ok entry) ↔
      RecentlyParsed s capacity calls template) ∧
    (∀ earlier between, LatestParse calls template earlier between →
      RecentlyParsed s capacity calls template →
      ∃ entry, (p earlier).answer template = .ok entry ∧
        (p calls).answer template = .ok entry) ∧
    (¬RecentlyParsed s capacity calls template →
      ∀ query, Query.ofTemplate s template = .ok query →
      ∃ entry, (p calls).answer template = .ok entry ∧ entry.query = query ∧
        ∀ earlier other between entry', calls = earlier ++ .parse other :: between →
          (p earlier).answer other = .ok entry' → entry'.id ≠ entry.id) := by
  have hofCapacity : QueryCache.ofCapacity capacity = .bounded capacity [] := by
    rw [QueryCache.ofCapacity, if_neg (by omega)]
  rw [hofCapacity]
  intro p
  have hissued : (Parser.mk s (.bounded capacity []) nextId).Issued := by
    intro e hmem
    simp [QueryCache.entries] at hmem
  have hnew : ¬RecentlyParsed s capacity calls template →
      ∀ query, Query.ofTemplate s template = .ok query →
      ∃ entry, (p calls).answer template = .ok entry ∧ entry.query = query ∧
        ∀ earlier other between entry', calls = earlier ++ .parse other :: between →
          (p earlier).answer other = .ok entry' → entry'.id ≠ entry.id := by
    intro hrecent query hquery
    refine ⟨_, answer_of_not_recentlyParsed hrecent hquery, rfl, ?_⟩
    intro earlier other between entry' hcalls hanswer
    exact Nat.ne_of_lt (hissued.answer_lt_after hcalls hanswer)
  refine ⟨?_, ⟨?_, ?_⟩, fun _ _ hlatest hrecent => hrecent.answer_eq hlatest, hnew⟩
  · obtain ⟨entries, hcache, hfst⟩ := Parser.fst_entries_after s capacity nextId calls
    rw [hcache, QueryCache.size, QueryCache.entries, ← List.length_map (f := Prod.fst), hfst]
    exact List.length_take_le _ _
  · rintro ⟨earlier, between, entry, hcalls, hearlier, hanswer⟩
    by_contra hrecent
    have hreached :=
      Parser.reached_after (p := ⟨s, .bounded capacity [], nextId⟩) (.empty rfl) calls
    have hstyle : (p calls).style = s := Parser.style_after _ calls
    have hquery := Parser.query_of_answer (hstyle.symm ▸ hreached.faithful) hanswer
    rw [hstyle] at hquery
    obtain ⟨entry', hanswer', -, hdifferent⟩ := hnew hrecent _ hquery
    obtain rfl := Except.ok.inj (hanswer.symm.trans hanswer')
    exact hdifferent earlier template between entry hcalls hearlier rfl
  · intro hrecent
    obtain ⟨-, earlier, between, hlatest, -⟩ := id hrecent
    obtain ⟨entry, hearlier, hanswer⟩ := hrecent.answer_eq hlatest
    exact ⟨earlier, between, entry, hlatest.whole, hearlier, hanswer⟩

/-- In a cache of two entries a use saves a template from going, and a failure is no use. -/
theorem bounded_shares_iff_recent_used :
    1 ≤ 2 ∧
    let p := (Parser.mk .hash (.ofCapacity 2) 0).after
    let earlier := [.parse "#a"]
    let between := [.parse "#a", .parse "'", .parse "#c"]
    (p (earlier ++ .parse "#b" :: between)).cache.size ≤ 2 ∧
    (∃ entry, (p [.parse "#a", .parse "#b"]).answer "#a" = .ok entry ∧
      (p (earlier ++ .parse "#b" :: between)).answer "#a" = .ok entry) ∧
    ∃ entry, (p (earlier ++ .parse "#b" :: between)).answer "#b" = .ok entry ∧
      ∀ entry', (p earlier).answer "#b" = .ok entry' → entry'.id ≠ entry.id := by
  have ha : Query.ofTemplate .hash "#a" = .ok ⟨"?", .named ["a"]⟩ := by cbv
  have hb : Query.ofTemplate .hash "#b" = .ok ⟨"?", .named ["b"]⟩ := by cbv
  have hc : Query.ofTemplate .hash "#c" = .ok ⟨"?", .named ["c"]⟩ := by cbv
  have hfault : Query.ofTemplate .hash "'" = .error ⟨.unterminatedQuote, 0⟩ := by cbv
  refine ⟨by decide, ?_⟩
  intro p earlier between
  have hshares := @bounded_shares_iff_recent .hash 2 (by decide) 0
    (earlier ++ .parse "#b" :: between)
  have hkept : RecentlyParsed .hash 2 (earlier ++ .parse "#b" :: between) "#a" := by
    refine ⟨⟨_, ha⟩, [.parse "#a", .parse "#b"], [.parse "'", .parse "#c"], ?_, ?_⟩
    · exact ⟨rfl, by decide, by decide⟩
    · simp [parsedIn, accepted, hfault, hc, Except.toBool]
  have hgone : ¬RecentlyParsed .hash 2 (earlier ++ .parse "#b" :: between) "#b" := by
    rintro ⟨-, earlier', between', hlatest, hfew⟩
    have hlatest₁ : LatestParse (earlier ++ .parse "#b" :: between) "#b" earlier between :=
      ⟨rfl, by decide, by decide⟩
    obtain ⟨-, rfl⟩ := hlatest.unique hlatest₁
    simp [between, parsedIn, accepted, ha, hfault, hc, Except.toBool] at hfew
  refine ⟨(hshares "#a").1, ?_, ?_⟩
  · exact (hshares "#a").2.2.1 _ _ ⟨rfl, by decide, by decide⟩ hkept
  · obtain ⟨entry, hanswer, -, hdifferent⟩ := (hshares "#b").2.2.2 hgone _ hb
    exact ⟨entry, hanswer, fun entry' => hdifferent earlier "#b" between entry' rfl⟩

end SqlTemplate
