import FullText.Proofs.Decimal.Integers
import FullText.Proofs.Store.History
import Mathlib.Algebra.BigOperators.Group.List.Basic
import Mathlib.Algebra.Ring.Int.Defs

/-!
Counters in hashes. A field that integers of 64 bits are added to, and that is not written otherwise,
holds their sum: the exact one, however often it was written as text and read again. An amount that
would take the sum out of range is refused and leaves it as it is.
-/

namespace FullText

/-! ### Commands about a field -/

/-- The integer of 64 bits that a command adds to a field of the hash at a key. -/
def Command.amount? (command : Command) (key field : String) : Option Int :=
  match Text.upper command.name with
  | "HINCRBY" =>
    match command.argTexts with
    | [target, name, text] =>
      if target = key ∧ name = field then Decimal.readInt64? text else none
    | _ => none
  | _ => none

/-- Whether a command sets a field of the hash at a key, or deletes the key. -/
def Command.overwrites (command : Command) (key field : String) : Bool :=
  match Text.upper command.name with
  | "HSET" =>
    match command.argTexts with
    | target :: pairs => target == key && ((alternating pairs).map (·.1)).contains field
    | [] => false
  | "DEL" => command.argTexts.contains key
  | _ => false

/-- The amount that an exchange has added to a field. One that was refused has added nothing. -/
def Exchange.added? (key field : String) : Exchange → Option Int
  | (command, .ok _) => command.amount? key field
  | (_, .error _) => none

/-- The amounts that exchanges have added to a field, in order. -/
def added (key field : String) (exchanges : List Exchange) : List Int :=
  exchanges.filterMap (Exchange.added? key field)

section Command

variable {command : Command} {key field : String} {amount : Int}

theorem Command.amount?_eq_some_iff : command.amount? key field = some amount ↔
    Text.upper command.name = "HINCRBY" ∧ ∃ text, command.argTexts = [key, field, text] ∧
      Decimal.readInt64? text = some amount := by
  unfold amount?
  constructor
  · intro hamount
    split at hamount
    case h_1 hname =>
      split at hamount
      case h_1 target name text hargs =>
        split at hamount
        case isTrue hsame => exact ⟨hname, text, by rw [hargs, hsame.1, hsame.2], hamount⟩
        case isFalse => cases hamount
      case h_2 => cases hamount
    case h_2 => cases hamount
  · rintro ⟨hname, text, hargs, hamount⟩
    simp [hname, hargs, hamount]

end Command

namespace Store

variable {command : Command} {key field : String} {store : Store}

theorem textAt?_put (hashes : OrderedMap Hash) (target : String) (hash : Hash)
    (key field : String) :
    textAt? (hashes.put target hash) key field =
      if target = key then hash.get? field else textAt? hashes key field := by
  by_cases htarget : target = key
  · rw [if_pos htarget, htarget, textAt?, hashAt_put_self]
  · rw [if_neg htarget, textAt?, hashAt_put_of_ne htarget, textAt?]

/-- A command that neither adds to a field nor overwrites it leaves its text alone. -/
theorem Step.textAt?_eq {hashes after : OrderedMap Hash} {answer : Except TransportError Reply}
    (hstep : Step command hashes answer after)
    (hspared : command.overwrites key field = false) (hamount : command.amount? key field = none) :
    textAt? after key field = textAt? hashes key field := by
  unfold Command.overwrites at hspared
  cases hstep with
  | refused | listed => rfl
  | @set target pairs hname hargs =>
      rw [textAt?_put]
      split
      case isTrue htarget =>
        have hnot : field ∉ (alternating pairs).map (·.1) := by
          simpa [hname, hargs, htarget] using hspared
        rw [OrderedMap.get?_putAll hnot, htarget, textAt?]
      case isFalse => rfl
  | deleted hname hargs =>
      have hnot : key ∉ command.argTexts := by simpa [hname] using hspared
      rw [textAt?, hashAt, OrderedMap.get?_eraseAll, if_neg hnot, textAt?, hashAt]
  | @increased target name text amount old hname hargs hread =>
      rw [textAt?_put]
      split
      case isTrue htarget =>
        have hother : name ≠ field := by
          rintro rfl
          rw [htarget] at hargs
          rw [Command.amount?_eq_some_iff.mpr ⟨hname, text, hargs, hread⟩] at hamount
          cases hamount
        rw [OrderedMap.get?_put, if_neg hother, htarget, textAt?]
      case isFalse => rfl

/-! ### Commands that add to a field -/

/-- An amount is added to the integer in a field, or leaves the store as it is. -/
theorem hincrby_eq {text : String} {amount old : Int}
    (hamount : Decimal.readInt64? text = some amount)
    (hold : counted? (textAt? store.hashes key field) = some old) :
    hincrby [key, field, text] store =
      if Decimal.fitsInt64 (old + amount) = true then
        (.ok (.int (old + amount)),
          { store with hashes :=
              store.hashes.put key ((hashAt store.hashes key).put field (toString (old + amount))) })
      else (.error (.server "ERR increment or decrement would overflow"), store) := by
  have hsum := incremented_eq (hashAt store.hashes key) field amount
  rw [textAt?] at hold
  rw [hold] at hsum
  by_cases hfits : Decimal.fitsInt64 (old + amount) = true
  · rw [if_pos hfits]
    exact hincrby_increased hamount (hsum.trans (if_pos hfits))
  · rw [if_neg hfits]
    exact hincrby_refused hamount (hsum.trans (if_neg hfits))

/-! ### Counting -/

/-- A field of the hash at a key counts amounts: it holds their sum, and before the first one
nothing. -/
structure Counting (store : Store) (key field : String) (amounts : List Int) : Prop where
  unprepared : store.prepared = ∅
  fits : Decimal.fitsInt64 amounts.sum = true
  textAt?_eq : textAt? store.hashes key field =
    if amounts = [] then none else some (toString amounts.sum)

section Counting

variable {amounts : List Int} {amount : Int}

/-- The text in the field is read as the sum. -/
theorem Counting.counted (hcounting : store.Counting key field amounts) :
    counted? (textAt? store.hashes key field) = some amounts.sum := by
  rw [hcounting.textAt?_eq]
  split
  case isTrue hnone =>
    rw [hnone]
    rfl
  case isFalse => exact Decimal.readInt64?_toString hcounting.fits

theorem Counting.execute_eq (hcounting : store.Counting key field amounts)
    (hamount : command.amount? key field = some amount) :
    execute command store =
      if Decimal.fitsInt64 (amounts.sum + amount) = true then
        (.ok (.int (amounts.sum + amount)),
          { store with
            hashes := store.hashes.put key
              ((hashAt store.hashes key).put field (toString (amounts.sum + amount)))
            sent := store.sent ++ [command] })
      else
        (.error (.server "ERR increment or decrement would overflow"),
          { store with sent := store.sent ++ [command] }) := by
  obtain ⟨hname, text, hargs, hread⟩ := Command.amount?_eq_some_iff.mp hamount
  have hperform : perform command { store with sent := store.sent ++ [command] } =
      hincrby [key, field, text] { store with sent := store.sent ++ [command] } := by
    simp only [perform, hname, hargs]
  rw [execute_of_unprepared hcounting.unprepared, hperform]
  exact hincrby_eq hread hcounting.counted

/-- One command more, and the field counts what it has added. -/
theorem Counting.execute (hcounting : store.Counting key field amounts)
    (hspared : command.overwrites key field = false) :
    (execute command store).2.Counting key field
      (amounts ++ (Exchange.added? key field (command, (execute command store).1)).toList) := by
  cases hamount : command.amount? key field with
  | none =>
      have hadded : Exchange.added? key field (command, (Store.execute command store).1) = none := by
        cases (Store.execute command store).1 with
        | ok reply => exact hamount
        | error error => rfl
      rw [hadded, Option.toList_none, List.append_nil]
      obtain ⟨hstep, hunprepared⟩ := execute_step hcounting.unprepared command
      refine ⟨hunprepared, hcounting.fits, ?_⟩
      rw [hstep.textAt?_eq hspared hamount]
      exact hcounting.textAt?_eq
  | some amount =>
      rw [hcounting.execute_eq hamount]
      split
      case isTrue hfits =>
        have hadded : Exchange.added? key field
            (command, .ok (.int (amounts.sum + amount))) = some amount := hamount
        rw [hadded, Option.toList_some]
        refine ⟨hcounting.unprepared, ?_, ?_⟩
        · rwa [List.sum_append, List.sum_singleton]
        · rw [textAt?_put, if_pos rfl, OrderedMap.get?_put, if_pos rfl, if_neg (by simp),
            List.sum_append, List.sum_singleton]
      case isFalse =>
        rw [Exchange.added?, Option.toList_none, List.append_nil]
        exact ⟨hcounting.unprepared, hcounting.fits, hcounting.textAt?_eq⟩

/-- A whole run, in which the field is not overwritten. -/
theorem Counting.converse {commands : List Command} (hcounting : store.Counting key field amounts)
    (hspared : ∀ command ∈ commands, command.overwrites key field = false) :
    (converse commands store).2.Counting key field
      (amounts ++ added key field (converse commands store).1) := by
  induction commands generalizing store amounts with
  | nil =>
      rw [Store.converse, added, List.filterMap_nil, List.append_nil]
      exact hcounting
  | cons command commands ih =>
      obtain ⟨hfirst, hlater⟩ := List.forall_mem_cons.mp hspared
      have hrest := ih (hcounting.execute hfirst) hlater
      rw [converse_cons, added, List.filterMap_cons]
      rw [List.append_assoc] at hrest
      cases hadded : Exchange.added? key field (command, (Store.execute command store).1) with
      | none =>
          rw [hadded] at hrest
          exact hrest
      | some amount =>
          rw [hadded] at hrest
          exact hrest

theorem counting_of_absent (hunprepared : store.prepared = ∅)
    (habsent : textAt? store.hashes key field = none) : store.Counting key field [] where
  unprepared := hunprepared
  fits := by decide
  textAt?_eq := habsent

end Counting

end Store

end FullText
