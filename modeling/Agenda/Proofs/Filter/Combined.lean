import Agenda.Filter.Action
import Agenda.Proofs.Filter.Reading
import Mathlib

/-!
Combined filters of structured requests. An item of a combined filter is read by itself, and the
actions for one condition read their parameter in a way of their own. Both ask the same of a value
and make the same condition of it, so a combined filter is what the actions for its items make, all
of them at once.
-/

namespace Agenda.Filter

open Json Text

/-- The name of the action for one condition of a kind. -/
def Action.singleName : FilterKind → Text
  | .date => "filter_by_date".toList
  | .priority => "filter_by_priority".toList
  | .status => "filter_by_status".toList

/-- What the action for one condition of a kind makes of a value for its parameter. -/
def single (kind : FilterKind) (value : Value) : Except Fault Filter :=
  ofAction (some (Action.singleName kind)) (.object [(Action.valueName kind, value)])

/-- The item asks for the filter: its type names a kind, in any case and between blanks, and the
action for that kind makes the filter of its value. -/
def Asks (item : Value) (f : Filter) : Prop :=
  ∃ word kind value, item.field? "type".toList = some (.string word) ∧
    kind.name = lower (trim word) ∧ item.field? "value".toList = some value ∧
    single kind value = .ok f

/-- The filters that items ask for, in order. Items that ask for none are skipped. -/
inductive Collects : List Value → List Filter → Prop
  | nil : Collects [] []
  | keep {item : Value} {items : List Value} {f : Filter} {filters : List Filter}
      (hasks : Asks item f) (hrest : Collects items filters) :
      Collects (item :: items) (f :: filters)
  | skip {item : Value} {items : List Value} {filters : List Filter}
      (hnone : ∀ f, ¬ Asks item f) (hrest : Collects items filters) :
      Collects (item :: items) filters

/-- What a combined filter comes to, by the value of its parameter: to a failure if there are no
items, to another one if no item asks for a filter, and else to all the filters at once that the
items ask for. -/
inductive Combines (found : Option Value) : Except Fault Filter → Prop
  | noItems (hnone : ∀ items, found = some (.array items) → items = []) :
      Combines found (.error .noItems)
  | noValidItems {items : List Value} (hfound : found = some (.array items)) (hne : items ≠ [])
      (hnone : ∀ item ∈ items, ∀ f, ¬ Asks item f) : Combines found (.error .noValidItems)
  | filters {items : List Value} {filters : List Filter} (hfound : found = some (.array items))
      (hcollects : Collects items filters) (hne : filters ≠ []) :
      Combines found (.ok (filters.foldl Filter.and .empty))

private theorem ofAction_singleName (kind : FilterKind) (params : Value) :
    ofAction (some (Action.singleName kind)) params = do
      let value ← requiredText params (Action.valueName kind) (Action.singleName kind)
      return ⟨[.named kind (lower (trim value))]⟩ := by
  have hkey : lower (trim (Action.singleName kind)) = Action.singleName kind := by
    cases kind <;> decide +kernel
  have hknown : Action.ofKey? (Action.singleName kind) = some (.single kind) := by
    cases kind <;> decide
  rw [ofAction]
  dsimp only [Option.getD_some]
  rw [hkey, hknown]
  simp only [ofDirective_name]
  rfl

theorem requiredText_eq_ok_iff {params : Value} {parameter key t : Text} :
    requiredText params parameter key = .ok t ↔
      params.field? parameter = some (.string t) ∧ isBlankText t = false := by
  unfold requiredText
  split
  · next raw hraw =>
      rw [hraw, Option.some.injEq, Value.string.injEq]
      cases hblank : isBlankText raw with
      | true =>
          refine iff_of_false nofun ?_
          rintro ⟨rfl, hfull⟩
          rw [hblank] at hfull
          cases hfull
      | false =>
          constructor
          · intro h
            obtain rfl := Except.ok.inj h
            exact ⟨rfl, hblank⟩
          · rintro ⟨rfl, _⟩
            rfl
  · next hother => exact iff_of_false nofun fun h => hother t h.1

/-- The action for one condition takes exactly the texts that are not blank. -/
theorem single_eq_ok_iff (kind : FilterKind) (value : Value) (f : Filter) :
    single kind value = .ok f ↔ ∃ t, value = .string t ∧ isBlankText t = false ∧
      f = ⟨[.named kind (lower (trim t))]⟩ := by
  have hfield : (Value.object [(Action.valueName kind, value)]).field? (Action.valueName kind) =
      some value := by simp [Value.field?, entry?]
  rw [single, ofAction_singleName]
  constructor
  · intro h
    obtain ⟨t, ht, h⟩ := ok_of_bind h
    obtain ⟨hvalue, hblank⟩ := requiredText_eq_ok_iff.mp ht
    exact ⟨t, Option.some.inj (hfield.symm.trans hvalue), hblank, (Except.ok.inj h).symm⟩
  · rintro ⟨t, rfl, hblank, rfl⟩
    rw [requiredText_eq_ok_iff.mpr ⟨hfield, hblank⟩]
    rfl

/-- A combined filter takes the condition of an item exactly if it is one that the action for its
kind makes of its value. -/
theorem itemPredicate?_eq_some_iff (item : Value) (p : Predicate) :
    itemPredicate? item = some p ↔ Asks item ⟨[p]⟩ := by
  constructor
  · intro h
    unfold itemPredicate? at h
    split at h
    · next word value hword hvalue =>
        rw [Option.ite_none_left_eq_some] at h
        obtain ⟨hblank, h⟩ := h
        unfold Predicate.ofDirective at h
        split at h
        · next kind hkind =>
            obtain rfl := Option.some.inj h
            refine ⟨word, kind, _, hword, (ofName?_eq_some_iff _ _).mp hkind, hvalue, ?_⟩
            exact (single_eq_ok_iff _ _ _).mpr ⟨value, rfl, by simpa using hblank, rfl⟩
        · cases h
    · cases h
  · rintro ⟨word, kind, value, hword, hkind, hvalue, hsingle⟩
    obtain ⟨t, rfl, hblank, hf⟩ := (single_eq_ok_iff _ _ _).mp hsingle
    obtain rfl : p = .named kind (lower (trim t)) := by simpa using hf
    rw [itemPredicate?, hword, hvalue]
    dsimp only
    rw [hblank, Predicate.ofDirective, (ofName?_eq_some_iff _ _).mpr hkind]
    rfl

/-- What an item asks for is one condition. -/
theorem Asks.exists_predicate {item : Value} {f : Filter} (h : Asks item f) :
    ∃ p, itemPredicate? item = some p ∧ f = ⟨[p]⟩ := by
  obtain ⟨_, kind, value, _, _, _, hsingle⟩ := id h
  obtain ⟨_, _, _, rfl⟩ := (single_eq_ok_iff kind value f).mp hsingle
  exact ⟨_, (itemPredicate?_eq_some_iff _ _).mpr h, rfl⟩

theorem not_asks_iff (item : Value) : (∀ f, ¬ Asks item f) ↔ itemPredicate? item = none := by
  rw [Option.eq_none_iff_forall_ne_some]
  constructor
  · intro h p hp
    exact h _ ((itemPredicate?_eq_some_iff item p).mp hp)
  · intro h f hf
    obtain ⟨p, hp, _⟩ := hf.exists_predicate
    exact h p hp

/-- The collected filters are those of the conditions that a combined filter takes. -/
theorem collects_iff (items : List Value) (filters : List Filter) :
    Collects items filters ↔
      filters = (items.filterMap itemPredicate?).map fun p => ⟨[p]⟩ := by
  constructor
  · intro h
    induction h with
    | nil => rfl
    | keep hasks _ ih =>
        obtain ⟨p, hp, rfl⟩ := hasks.exists_predicate
        rw [List.filterMap_cons_some hp, List.map_cons, ih]
    | skip hnone _ ih =>
        rw [List.filterMap_cons_none ((not_asks_iff _).mp hnone), ih]
  · rintro rfl
    induction items with
    | nil => exact .nil
    | cons item rest ih =>
        cases hitem : itemPredicate? item with
        | none =>
            rw [List.filterMap_cons_none hitem]
            exact .skip ((not_asks_iff item).mpr hitem) ih
        | some p =>
            rw [List.filterMap_cons_some hitem]
            exact .keep ((itemPredicate?_eq_some_iff item p).mp hitem) ih

private theorem foldl_and (ps : List Predicate) (f : Filter) :
    (ps.map fun p => (⟨[p]⟩ : Filter)).foldl Filter.and f = f.and ⟨ps⟩ := by
  induction ps generalizing f with
  | nil => simp [Filter.and]
  | cons p rest ih =>
      rw [List.map_cons, List.foldl_cons, ih]
      simp [Filter.and]

private theorem ofItems_of_no_items {found : Option Value}
    (h : ∀ items, found = some (.array items) → items = []) : ofItems found = .error .noItems := by
  unfold ofItems
  split
  · next items =>
      rw [h items rfl]
      rfl
  · rfl

private theorem ofItems_array {items : List Value} (hne : items ≠ []) :
    ofItems (some (.array items)) = if items.filterMap itemPredicate? = [] then .error .noValidItems
      else .ok ⟨items.filterMap itemPredicate?⟩ := by
  rw [ofItems, if_neg (by simpa using hne)]
  split
  · next hempty => rw [if_pos hempty]
  · next predicates hfull => rw [if_neg hfull]

private theorem filterMap_eq_nil_iff (items : List Value) :
    items.filterMap itemPredicate? = [] ↔ ∀ item ∈ items, ∀ f, ¬ Asks item f := by
  simp only [List.filterMap_eq_nil_iff, not_asks_iff]

private theorem combines_ofItems (found : Option Value) : Combines found (ofItems found) := by
  by_cases hnone : ∀ items, found = some (.array items) → items = []
  · rw [ofItems_of_no_items hnone]
    exact .noItems hnone
  · push Not at hnone
    obtain ⟨items, rfl, hne⟩ := hnone
    rw [ofItems_array hne]
    split_ifs with hempty
    · exact .noValidItems rfl hne ((filterMap_eq_nil_iff items).mp hempty)
    · have hcollects := (collects_iff items _).mpr rfl
      have hall : Combines (some (.array items)) _ :=
        .filters rfl hcollects (by simpa using hempty)
      rwa [foldl_and] at hall

private theorem Combines.ofItems_eq {found : Option Value} {outcome : Except Fault Filter}
    (h : Combines found outcome) : ofItems found = outcome := by
  cases h with
  | noItems hnone => exact ofItems_of_no_items hnone
  | noValidItems hfound hne hnone =>
      rw [hfound, ofItems_array hne, if_pos ((filterMap_eq_nil_iff _).mpr hnone)]
  | @filters items _ hfound hcollects hne =>
      rw [collects_iff] at hcollects
      subst hcollects
      have hempty : items.filterMap itemPredicate? ≠ [] := by simpa using hne
      have hitems : items ≠ [] := by
        rintro rfl
        exact hempty rfl
      rw [hfound, ofItems_array hitems, if_neg hempty, foldl_and]
      rfl

/-- The action for a combined filter gives all the filters at once that the actions for single
conditions give for its items, in order and apart from the items for which they give none. It fails
only if there are no items or if no filter remains, and each has a failure of its own. -/
theorem combined_iff (params : Value) (outcome : Except Fault Filter) :
    ofAction (some "filter_combined".toList) params = outcome ↔
      Combines (params.field? "filters".toList) outcome := by
  have hkey : lower (trim "filter_combined".toList) = "filter_combined".toList := by
    decide +kernel
  have haction : ofAction (some "filter_combined".toList) params =
      ofItems (params.field? "filters".toList) := by
    rw [ofAction]
    dsimp only [Option.getD_some]
    rw [hkey]
    rfl
  rw [haction]
  constructor
  · rintro rfl
    exact combines_ofItems _
  · exact Combines.ofItems_eq

/-- Items without a known type or without a text as value are skipped. -/
example : ofAction (some "filter_combined".toList) (.object [("filters".toList, .array [
      .object [("type".toList, .string "label".toList), ("value".toList, .string "x".toList)],
      .object [("type".toList, .string " Status ".toList), ("value".toList, .string "DONE".toList)],
      .object [("type".toList, .string "date".toList), ("value".toList, .null)]])]) =
    .ok ⟨[.named .status "done".toList]⟩ := by
  decide +kernel

end Agenda.Filter
