import SqlTemplate.Proofs.FieldRules
import SqlTemplate.Proofs.FinderEntries
import SqlTemplate.Proofs.StyledNames
import SqlTemplate.Record.OrderBook

/-!
# Finders of declared records

What the finder of a record lists and finds is said here from the declaration of the record: the
plain fields under the names that they have in it, then what is below the nested ones, and nothing
of the fields that it leaves out. The records of the order book have the finders that their
declarations give them.
-/

namespace SqlTemplate

open DeclarationFault (firstOr)
open Finder (inScope valueEntries ScopesApart)

/-- The rules are divided into those for values and those for finders, both in their order. -/
theorem FieldRule.finder_eq (typeName : String) (value : String → Value) (inner : String → Finder)
    (rules : List FieldRule) :
    FieldRule.finder typeName value inner rules = .record typeName
      ((rules.filter fun rule => !rule.skipped && !rule.nested).map fun rule =>
        (rule.name, value rule.identifier))
      ((rules.filter fun rule => !rule.skipped && rule.nested).map fun rule =>
        (rule.name, inner rule.identifier)) := by
  simp only [finder, List.partition_eq_filter_filter, List.filter_filter, Bool.and_comm,
    Function.comp_def]

theorem Finder.nestedEntries_map {α : Type} (scope : α → String) (inner : α → Finder)
    (items : List α) :
    nestedEntries (items.map fun a => (scope a, inner a)) =
      items.flatMap fun a => inScope (scope a) (inner a).entries := by
  induction items with
  | nil => rfl
  | cons a items ih => rw [List.map_cons, nestedEntries, ih, List.flatMap_cons]

namespace DeclaredRecord

/-- What a declaration says about the fields that are values, in order. -/
def plain (r : DeclaredRecord) : List FieldRule :=
  (r.fields.map (DeclaredField.said r.saidStyle)).filter fun rule => !rule.skipped && !rule.nested

/-- What a declaration says about the fields that are finders, in order. -/
def nested (r : DeclaredRecord) : List FieldRule :=
  (r.fields.map (DeclaredField.said r.saidStyle)).filter fun rule => !rule.skipped && rule.nested

section

variable (r : DeclaredRecord) (typeName : String) (value : String → Value)
  (inner : String → Finder)

/-- The finder of a record without faults has the plain fields and the nested ones. -/
theorem finder_eq :
    r.finder typeName value inner = firstOr r.faults (.record typeName
      (r.plain.map fun rule => (rule.name, value rule.identifier))
      (r.nested.map fun rule => (rule.name, inner rule.identifier))) := by
  rw [finder, rules_eq, plain, nested, ← FieldRule.finder_eq]
  cases r.faults <;> rfl

end

section

variable {r : DeclaredRecord} {typeName : String} {value : String → Value}
  {inner : String → Finder} {f : Finder}

/-- The entries of a record's finder are read off the declaration. -/
theorem entries_finder (hf : r.finder typeName value inner = .ok f) :
    f.entries = valueEntries (r.plain.map fun rule => (rule.name, value rule.identifier)) ++
      r.nested.flatMap fun rule => inScope rule.name (inner rule.identifier).entries := by
  rw [finder_eq, DeclarationFault.firstOr_eq_ok_iff] at hf
  obtain ⟨-, rfl⟩ := hf
  rw [Finder.entries, Finder.nestedEntries_map]

/-- A record's finder lists the names that the declaration gives to the plain fields, and those of
the nested fields in the scopes that it gives to them. -/
theorem names_finder (hf : r.finder typeName value inner = .ok f) :
    f.names = r.plain.map FieldRule.name ++ r.nested.flatMap fun rule =>
      (inner rule.identifier).names.map fun name => rule.name ++ "." ++ name := by
  have hscope : ∀ rule ∈ r.nested,
      (inScope rule.name (inner rule.identifier).entries).map Prod.fst =
        (inner rule.identifier).names.map fun name => rule.name ++ "." ++ name := by
    intro rule _
    rw [Finder.map_fst_inScope, ← Finder.names_eq_entries]
    rfl
  rw [Finder.names_eq_entries, entries_finder hf, List.map_append, Finder.map_fst_valueEntries,
    List.map_map, List.map_flatMap, List.flatMap_congr hscope]
  rfl

/-- A record's finder finds the first of its entries with a name, if its nested finders find theirs
and no name is in two scopes. -/
theorem find?_finder (hf : r.finder typeName value inner = .ok f)
    (hinner : ∀ rule ∈ r.nested, (inner rule.identifier).Listed)
    (hapart : r.nested.Pairwise fun rule rule' => ScopesApart rule.name rule'.name)
    (site : BindingSite) (name : String) :
    f.find? site name =
      (valueEntries (r.plain.map fun rule => (rule.name, value rule.identifier)) ++
        r.nested.flatMap fun rule =>
          inScope rule.name (inner rule.identifier).entries).lookup name := by
  rw [← entries_finder hf]
  refine Finder.find?_eq_lookup ?_ site name
  rw [finder_eq, DeclarationFault.firstOr_eq_ok_iff] at hf
  obtain ⟨-, rfl⟩ := hf
  exact .record (List.forall_mem_map.mpr hinner) (List.pairwise_map.mpr hapart)

end

end DeclaredRecord

/-! ## The order book -/

namespace Address

theorem rules_declared :
    declared.rules = .ok [⟨"city", "city", false, false⟩, ⟨"zip", "zip", false, false⟩] :=
  DeclaredRecord.rules_eq_ok_iff.mpr ⟨rfl, by decide, by decide, by decide⟩

theorem finder_declared (a : Address) {value : String → Value} (inner : String → Finder)
    (hcity : value "city" = NativeType.toValue .text a.city)
    (hzip : value "zip" = NativeType.toValue (.optional .text) a.zip) :
    declared.finder "Address" value inner = .ok a.finder := by
  rw [DeclaredRecord.finder, rules_declared, finder, ← hcity, ← hzip]
  rfl

end Address

namespace Customer

theorem rules_declared :
    declared.rules = .ok [⟨"id", "id", false, false⟩, ⟨"_name", "full_name", false, false⟩,
      ⟨"balance", "balance", false, false⟩, ⟨"password", "password", true, false⟩,
      ⟨"address", "address", false, true⟩] :=
  DeclaredRecord.rules_eq_ok_iff.mpr ⟨rfl, by decide, by decide, by decide⟩

/-- Whatever the password is, the finder does not have it. -/
theorem finder_declared (c : Customer) {value : String → Value} {inner : String → Finder}
    (hid : value "id" = NativeType.toValue .uuid c.id)
    (hname : value "_name" = NativeType.toValue .text c.name)
    (hbalance : value "balance" = NativeType.toValue .decimal c.balance)
    (haddress : inner "address" = c.address.finder) :
    declared.finder "Customer" value inner = .ok c.finder := by
  rw [DeclaredRecord.finder, rules_declared, finder, ← hid, ← hname, ← hbalance, ← haddress]
  rfl

end Customer

namespace Order

theorem rules_declared :
    declared.rules = .ok [⟨"order_id", "orderId", false, false⟩,
      ⟨"shipped_on", "shippedOn", false, false⟩, ⟨"total_amount", "raw_total", false, false⟩,
      ⟨"bill_to", "billTo", false, true⟩, ⟨"_ship_to", "ship.to", false, true⟩] := by
  have hid : DeclaredField.defaultName (some .camel) "order_id" = "orderId" :=
    CaseStyle.apply_snake .camel ["order", "id"] (by decide)
  have hshipped : DeclaredField.defaultName (some .camel) "shipped_on" = "shippedOn" :=
    CaseStyle.apply_snake .camel ["shipped", "on"] (by decide)
  have hbill : DeclaredField.defaultName (some .camel) "bill_to" = "billTo" :=
    CaseStyle.apply_snake .camel ["bill", "to"] (by decide)
  have hfields : declared.fields.map (DeclaredField.said declared.saidStyle) =
      [DeclaredField.said (some .camel) ⟨"order_id", []⟩,
        DeclaredField.said (some .camel) ⟨"shipped_on", []⟩,
        ⟨"total_amount", "raw_total", false, false⟩,
        DeclaredField.said (some .camel) ⟨"bill_to", [.own [⟨"nested", none⟩]]⟩,
        ⟨"_ship_to", "ship.to", false, true⟩] := rfl
  refine DeclaredRecord.rules_eq_ok_iff.mpr ⟨by decide, by decide, by decide, ?_⟩
  rw [hfields, DeclaredField.said_bare, DeclaredField.said_bare, DeclaredField.said_nested, hid,
    hshipped, hbill]

theorem finder_declared (o : Order) {value : String → Value} {inner : String → Finder}
    (hnumber : value "order_id" = NativeType.toValue (.integer .int64) o.number)
    (hshipped : value "shipped_on" = NativeType.toValue (.optional .date) o.shippedOn)
    (htotal : value "total_amount" = NativeType.toValue .float64 o.total)
    (hbill : inner "bill_to" = o.billTo.finder) (hship : inner "_ship_to" = o.shipTo.finder) :
    declared.finder "Order" value inner = .ok o.finder := by
  rw [DeclaredRecord.finder, rules_declared, finder, ← hnumber, ← hshipped, ← htotal, ← hbill,
    ← hship]
  rfl

end Order

namespace Pair

theorem rules_declared :
    declared.rules = .ok [⟨"_first", "rest.first", false, false⟩, ⟨"rest", "rest", false, true⟩] :=
  DeclaredRecord.rules_eq_ok_iff.mpr ⟨rfl, by decide, by decide, by decide⟩

theorem finder_declared (p : Pair) {value : String → Value} {inner : String → Finder}
    (hfirst : value "_first" = p.first) (hrest : inner "rest" = p.rest) :
    declared.finder "Pair" value inner = .ok p.finder := by
  rw [DeclaredRecord.finder, rules_declared, finder, ← hfirst, ← hrest]
  rfl

end Pair

namespace Renamed

/-- No style leaves a field without a name. -/
theorem defaultName_ne_empty (style : CaseStyle) :
    ∀ identifier ∈ identifiers, DeclaredField.defaultName (some style) identifier ≠ "" := by
  have happly : ∀ name ∈ ["user_id", "private_name", "http2_server", "x"],
      style.apply name ≠ "" := by
    intro name hname
    have hplain : (name.toList.all fun c => decide (Unicode.IsPlain c)) = true := by
      revert name
      decide
    rw [CaseStyle.apply, Text.words_of_plain fun c hc =>
      of_decide_eq_true (List.all_eq_true.mp hplain c hc)]
    clear hplain
    revert name
    cases style <;> decide +kernel
  intro identifier hidentifier
  simp only [identifiers, List.mem_cons, List.not_mem_nil, or_false] at hidentifier
  rcases hidentifier with rfl | rfl | rfl | rfl
  · exact happly "user_id" (by decide)
  · exact happly "private_name" (by decide)
  · exact happly "http2_server" (by decide)
  · exact happly "x" (by decide)

theorem rules_declared {styleName : String} {style : CaseStyle}
    (hstyle : CaseStyle.ofName? styleName = some style) :
    (declared styleName).rules = .ok (identifiers.map fun identifier =>
      ⟨identifier, DeclaredField.defaultName (some style) identifier, false, false⟩) := by
  have hitem : AttributeItem.style? ⟨"rename_all", some (.text styleName)⟩ = some style := hstyle
  have hitems : DeclaredAttribute.itemsOf (declared styleName).attributes =
      [⟨"rename_all", some (.text styleName)⟩] := rfl
  have hsaid : (declared styleName).saidStyle = some style := by
    rw [DeclaredRecord.saidStyle, hitems, List.filterMap_cons_some hitem]
    rfl
  refine DeclaredRecord.rules_eq_ok_iff.mpr ⟨?_, ?_, ?_, ?_⟩
  · have hfaults : (declared styleName).attributeFaults =
        AttributeItem.recordFaults ⟨"rename_all", some (.text styleName)⟩ ++ [] ++ [] := rfl
    rw [hfaults, List.append_nil, List.append_nil, AttributeItem.recordFaults, if_pos rfl]
    exact if_neg (hstyle ▸ Option.some_ne_none style)
  · exact List.forall_mem_map.mpr fun _ _ => rfl
  · exact List.forall_mem_map.mpr (defaultName_ne_empty style)
  · rw [hsaid, declared, List.map_map]
    exact List.map_congr_left fun identifier _ =>
      (DeclaredField.said_bare (some style) identifier).symm

/-- In every style the names of the finder are those that the style gives to the fields. -/
theorem finder_declared (r : Renamed) {styleName : String}
    (hstyle : CaseStyle.ofName? styleName = some r.style) {value : String → Value}
    (inner : String → Finder)
    (hvalue : ∀ (i : Nat) identifier, identifiers[i]? = some identifier →
      value identifier = .integer .int32 (some (Integer.wrapping .int32 (r.start + i)))) :
    (declared styleName).finder (typeName r.style) value inner = .ok r.finder := by
  have hplain : ∀ names : List String,
      FieldRule.finder (typeName r.style) value inner (names.map fun identifier =>
          ⟨identifier, DeclaredField.defaultName (some r.style) identifier, false, false⟩) =
        .record (typeName r.style) (names.map fun identifier =>
          (DeclaredField.defaultName (some r.style) identifier, value identifier)) [] := by
    intro names
    rw [FieldRule.finder_eq]
    simp [List.filter_map, Function.comp_def]
  have hfields : (identifiers.map fun identifier =>
      (DeclaredField.defaultName (some r.style) identifier, value identifier)) =
        identifiers.mapIdx fun index identifier =>
          (DeclaredField.defaultName (some r.style) identifier,
            .integer .int32 (some (Integer.wrapping .int32 (r.start + index)))) := by
    refine List.ext_getElem? fun i => ?_
    rw [List.getElem?_map, List.getElem?_mapIdx]
    cases hidentifier : identifiers[i]? with
    | none => rfl
    | some identifier => rw [Option.map_some, Option.map_some, hvalue i identifier hidentifier]
  rw [DeclaredRecord.finder, rules_declared hstyle, finder, ← hfields]
  exact congrArg Except.ok (hplain identifiers)

end Renamed

end SqlTemplate
