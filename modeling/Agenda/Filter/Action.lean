import Agenda.Filter.Token
import Agenda.Json.Value

/-!
Filters from structured requests: an action by name, with parameters as JSON.
-/

namespace Agenda.Filter

open Json

inductive Action where
  /-- One condition of a kind. -/
  | single (kind : FilterKind)
  | combined
  | search
  | list
  deriving DecidableEq, Repr

namespace Action

def ofKey? (key : Text) : Option Action :=
  if key = "filter_by_date".toList then some (single .date)
  else if key = "filter_by_priority".toList then some (single .priority)
  else if key = "filter_by_status".toList then some (single .status)
  else if key = "filter_combined".toList then some combined
  else if key = "search_tasks".toList then some search
  else if key = "list_tasks".toList then some list
  else none

/-- The parameter in which the value of a condition stands. -/
def valueName : FilterKind → Text
  | .date => "range".toList
  | .priority => "level".toList
  | .status => "status".toList

end Action

/-- The text of a parameter, which must not be blank. -/
def requiredText (params : Value) (parameter key : Text) : Except Fault Text :=
  match params.field? parameter with
  | some (.string t) => if Text.isBlankText t then .error (.badParameter parameter key) else .ok t
  | _ => .error (.badParameter parameter key)

/-- The condition of an item of a combined filter, if it is one. -/
def itemPredicate? (item : Value) : Option Predicate :=
  match item.field? "type".toList, item.field? "value".toList with
  | some (.string kind), some (.string value) =>
    if Text.isBlankText value then none else (Predicate.ofDirective kind value).toOption
  | _, _ => none

/-- The conditions of a list of items. Items that are none are left out, and one has to remain. -/
def ofItems : Option Value → Except Fault Filter
  | some (.array items) =>
    if items.isEmpty then .error .noItems
    else
      match items.filterMap itemPredicate? with
      | [] => .error .noValidItems
      | predicates => .ok ⟨predicates⟩
  | _ => .error .noItems

/-- The search for a term. A missing or blank term lets every task pass. -/
def ofTerm (key : Text) : Option Value → Except Fault Filter
  | none | some .null => .ok empty
  | some (.string term) =>
    .ok (if Text.isBlankText term then empty else ⟨[.text (Text.trim term)]⟩)
  | some _ => .error (.badParameter "term".toList key)

def ofAction (action : Option Text) (params : Value) : Except Fault Filter := do
  let key := Text.lower (Text.trim (action.getD []))
  match Action.ofKey? key with
  | some (.single kind) =>
    let value ← requiredText params (Action.valueName kind) key
    return ⟨[← Predicate.ofDirective kind.name value]⟩
  | some .combined => ofItems (params.field? "filters".toList)
  | some .search => ofTerm key (params.field? "term".toList)
  | some .list => return empty
  | none => throw (.unknownAction action)

end Agenda.Filter
