import FullText.Proofs.Store.Commands

/-!
The store and its history. What is at a key follows from the exchanges so far: it is what was
written there since the key was deleted last, each field in the place of its first write with the
value of its last.
-/

namespace FullText

/-- A command with its answer. -/
abbrev Exchange :=
  Command × Except TransportError Reply

/-- What a command that is carried out leaves of the writes to the hash at a key. A sum is written
as it is told. -/
def Command.leaves (command : Command) (reply : Reply) (key : String)
    (earlier : List (String × String)) : List (String × String) :=
  match Text.upper command.name with
  | "HSET" =>
    match command.argTexts with
    | target :: pairs => if target = key then earlier ++ alternating pairs else earlier
    | [] => earlier
  | "HINCRBY" =>
    match command.argTexts, reply with
    | [target, field, _], .int sum =>
      if target = key then earlier ++ [(field, toString sum)] else earlier
    | _, _ => earlier
  | "DEL" => if key ∈ command.argTexts then [] else earlier
  | _ => earlier

/-- What an exchange leaves of the writes to the hash at a key. -/
def Exchange.leaves (key : String) (earlier : List (String × String)) :
    Exchange → List (String × String)
  | (command, .ok reply) => command.leaves reply key earlier
  | (_, .error _) => earlier

/-- The writes to the hash at a key since the key was deleted last, in order. -/
def written (key : String) (exchanges : List Exchange) : List (String × String) :=
  exchanges.foldl (Exchange.leaves key) []

namespace Store

/-- Carries out commands one after another, and records the answers. -/
def converse : List Command → Store → List Exchange × Store
  | [], store => ([], store)
  | command :: commands, store =>
    let (answer, store) := execute command store
    let (exchanges, store) := converse commands store
    ((command, answer) :: exchanges, store)

theorem converse_cons (command : Command) (commands : List Command) (store : Store) :
    converse (command :: commands) store =
      ((command, (execute command store).1) ::
          (converse commands (execute command store).2).1,
        (converse commands (execute command store).2).2) :=
  rfl

/-- A store refines its history: its hashes are sound, and whatever command comes next is answered
from what was written before. -/
structure Refines (store : Store) (exchanges : List Exchange) : Prop where
  /-- No hash is empty, and none has a field twice. -/
  hashes_sound : ∀ hash ∈ store.hashes.values, hash.entries ≠ [] ∧ hash.names.Nodup
  accepted : ∀ command, (∃ reply, (execute command store).1 = .ok reply) ↔
    Accepts (fun key => OrderedMap.lastValue? (written key exchanges)) command
  /-- A key is read as the listing of what was written there. -/
  listed : ∀ command key, Text.upper command.name = "HGETALL" → command.argTexts = [key] →
    (execute command store).1 = .ok (.array ((OrderedMap.listing (written key exchanges)).flatMap
      fun (field, value) => [.bulk field, .bulk value]))
  /-- Setting tells how many fields are new. -/
  set : ∀ command key pairs reply, Text.upper command.name = "HSET" →
    command.argTexts = key :: pairs → (execute command store).1 = .ok reply →
    reply = .int ((hashAt (execute command store).2.hashes key).names.removeAll
      (hashAt store.hashes key).names).length
  /-- Deleting tells how many keys are gone, which are the stored ones among the arguments. -/
  deleted : ∀ command reply, Text.upper command.name = "DEL" →
    (execute command store).1 = .ok reply →
    reply = .int (store.hashes.names.removeAll (execute command store).2.hashes.names).length ∧
    ∀ key, key ∈ (execute command store).2.hashes.names ↔
      key ∈ store.hashes.names ∧ key ∉ command.argTexts
  /-- Increasing tells the sum of the last value and the amount. -/
  increased : ∀ command key field text reply, Text.upper command.name = "HINCRBY" →
    command.argTexts = [key, field, text] → (execute command store).1 = .ok reply →
    ∃ old amount, counted? (OrderedMap.lastValue? (written key exchanges) field) = some old ∧
      Decimal.readInt64? text = some amount ∧ reply = .int (old + amount)
  /-- An error leaves every hash as it was. -/
  refused : ∀ command error, (execute command store).1 = .error error →
    (execute command store).2.hashes = store.hashes

/-! ### The hashes follow the history -/

/-- The hash that writes have made; without writes there is none. -/
def stored (writes : List (String × String)) : Option Hash :=
  if writes = [] then none else some (OrderedMap.ofList writes)

theorem stored_of_ne_nil {writes : List (String × String)} (hne : writes ≠ []) :
    stored writes = some (OrderedMap.ofList writes) :=
  if_neg hne

theorem stored_getD (writes : List (String × String)) :
    (stored writes).getD ∅ = OrderedMap.ofList writes := by
  rw [stored]
  split
  case isTrue hnone =>
    rw [hnone]
    rfl
  case isFalse => rfl

theorem stored_isNone_iff {writes : List (String × String)} :
    (stored writes).isNone ↔ writes = [] := by
  rw [stored]
  split
  case isTrue hnone => simp [hnone]
  case isFalse hsome => simp [hsome]

/-- A store without prepared answers, with what was written at every key. -/
structure Follows (store : Store) (exchanges : List Exchange) : Prop where
  unprepared : store.prepared = ∅
  hash_eq : ∀ key, store.hash? key = stored (written key exchanges)

theorem written_concat (key : String) (exchanges : List Exchange) (exchange : Exchange) :
    written key (exchanges ++ [exchange]) = exchange.leaves key (written key exchanges) :=
  List.foldl_append

section Step

variable {store : Store} {exchanges : List Exchange} {command : Command}

theorem Follows.hashAt_eq (hfollows : store.Follows exchanges) (key : String) :
    hashAt store.hashes key = OrderedMap.ofList (written key exchanges) := by
  have hhash := hfollows.hash_eq key
  rw [hash?] at hhash
  rw [hashAt, hhash, stored_getD]

theorem Follows.execute_step (hfollows : store.Follows exchanges) (command : Command) :
    Step command store.hashes (execute command store).1 (execute command store).2.hashes ∧
      (execute command store).2.prepared = ∅ :=
  Store.execute_step hfollows.unprepared command

theorem Follows.step_of_answer (hfollows : store.Follows exchanges)
    {answer : Except TransportError Reply} (hanswer : (execute command store).1 = answer) :
    Step command store.hashes answer (execute command store).2.hashes := by
  rw [← hanswer]
  exact (hfollows.execute_step command).1

theorem leaves_hset {target : String} {pairs : List String} (reply : Reply) (key : String)
    (earlier : List (String × String)) (hname : Text.upper command.name = "HSET")
    (hargs : command.argTexts = target :: pairs) :
    command.leaves reply key earlier =
      if target = key then earlier ++ alternating pairs else earlier := by
  unfold Command.leaves
  rw [hname, hargs]
  rfl

private theorem leaves_hgetall (reply : Reply) (key : String) (earlier : List (String × String))
    (hname : Text.upper command.name = "HGETALL") :
    command.leaves reply key earlier = earlier := by
  unfold Command.leaves
  rw [hname]
  rfl

private theorem leaves_del (reply : Reply) (key : String) (earlier : List (String × String))
    (hname : Text.upper command.name = "DEL") :
    command.leaves reply key earlier = if key ∈ command.argTexts then [] else earlier := by
  unfold Command.leaves
  rw [hname]
  rfl

private theorem leaves_hincrby {target field text : String} (sum : Int) (key : String)
    (earlier : List (String × String)) (hname : Text.upper command.name = "HINCRBY")
    (hargs : command.argTexts = [target, field, text]) :
    command.leaves (.int sum) key earlier =
      if target = key then earlier ++ [(field, toString sum)] else earlier := by
  unfold Command.leaves
  rw [hname, hargs]
  rfl

/-- Putting more into the hash at a key is writing more there. -/
theorem Follows.hash_put (hfollows : store.Follows exchanges) (target key : String)
    {more : List (String × String)} (hne : more ≠ []) :
    (store.hashes.put target ((hashAt store.hashes target).putAll more)).get? key =
      stored (if target = key then written key exchanges ++ more else written key exchanges) := by
  rw [OrderedMap.get?_put]
  by_cases htarget : target = key
  · subst htarget
    have hwrites : written target exchanges ++ more ≠ [] := by simp [hne]
    rw [if_pos rfl, if_pos rfl, stored_of_ne_nil hwrites, hfollows.hashAt_eq,
      OrderedMap.ofList_append]
  · rw [if_neg htarget, if_neg htarget]
    exact hfollows.hash_eq key

/-- One step keeps every hash what was written. -/
theorem Follows.hash_step (hfollows : store.Follows exchanges)
    {answer : Except TransportError Reply} {after : OrderedMap Hash}
    (hstep : Step command store.hashes answer after) (key : String) :
    after.get? key = stored (Exchange.leaves key (written key exchanges) (command, answer)) := by
  cases hstep with
  | refused => exact hfollows.hash_eq key
  | @set target pairs hname hargs hne heven =>
      rw [Exchange.leaves, leaves_hset _ key _ hname hargs]
      exact hfollows.hash_put target key (alternating_ne_nil hne heven)
  | listed hname hargs =>
      rw [Exchange.leaves, leaves_hgetall _ key _ hname]
      exact hfollows.hash_eq key
  | deleted hname hargs =>
      rw [Exchange.leaves, leaves_del _ key _ hname, OrderedMap.get?_eraseAll]
      by_cases hgone : key ∈ command.argTexts
      · rw [if_pos hgone, if_pos hgone]
        rfl
      · rw [if_neg hgone, if_neg hgone]
        exact hfollows.hash_eq key
  | @increased target field text amount old hname hargs hamount hold hfits =>
      rw [Exchange.leaves, leaves_hincrby _ key _ hname hargs]
      exact hfollows.hash_put target key (List.cons_ne_nil (field, toString (old + amount)) [])

theorem Follows.execute (hfollows : store.Follows exchanges) (command : Command) :
    (execute command store).2.Follows (exchanges ++ [(command, (execute command store).1)]) := by
  obtain ⟨hstep, hunprepared⟩ := hfollows.execute_step command
  refine ⟨hunprepared, fun key => ?_⟩
  rw [written_concat]
  exact hfollows.hash_step hstep key

/-- A whole run keeps every hash what was written. -/
theorem Follows.converse (hfollows : store.Follows exchanges) (commands : List Command) :
    (converse commands store).2.Follows (exchanges ++ (converse commands store).1) := by
  induction commands generalizing store exchanges with
  | nil =>
      rw [Store.converse, List.append_nil]
      exact hfollows
  | cons command commands ih =>
      have hrest := ih (hfollows.execute command)
      rwa [List.append_assoc, List.singleton_append] at hrest

theorem length_converse (commands : List Command) (store : Store) :
    (Store.converse commands store).1.length = commands.length := by
  induction commands generalizing store with
  | nil => rfl
  | cons command commands ih => exact congrArg (· + 1) (ih _)

theorem follows_empty : Follows {} [] :=
  ⟨rfl, fun _ => rfl⟩

theorem Follows.textAt?_eq (hfollows : store.Follows exchanges) :
    textAt? store.hashes = fun key => OrderedMap.lastValue? (written key exchanges) := by
  funext key field
  rw [textAt?, hfollows.hashAt_eq, OrderedMap.get?_ofList]

theorem Follows.refines (hfollows : store.Follows exchanges) : store.Refines exchanges where
  hashes_sound := by
    intro hash hmem
    obtain ⟨⟨key, _⟩, hentry, rfl⟩ := List.mem_map.mp hmem
    have hhash := (OrderedMap.get?_of_mem hentry).symm.trans (hfollows.hash_eq key)
    by_cases hnone : written key exchanges = []
    · rw [hnone] at hhash
      cases hhash
    · refine ⟨?_, OrderedMap.names_nodup _⟩
      rw [stored_of_ne_nil hnone] at hhash
      rw [Option.some.inj hhash]
      rwa [OrderedMap.entries_ofList, ne_eq, OrderedMap.listing_eq_nil_iff]
  accepted := by
    intro command
    rw [(hfollows.execute_step command).1.ok_iff, hfollows.textAt?_eq]
  listed := by
    intro command key hname hargs
    rw [(hfollows.execute_step command).1.hgetall hname hargs, hfollows.hashAt_eq,
      OrderedMap.entries_ofList]
  set := by
    intro command key pairs reply hname hargs hreply
    exact (hfollows.step_of_answer hreply).hset hname hargs
  deleted := by
    intro command reply hname hreply
    exact (hfollows.step_of_answer hreply).del hname
  increased := by
    intro command key field text reply hname hargs hreply
    rw [← congrFun hfollows.textAt?_eq key]
    exact (hfollows.step_of_answer hreply).hincrby hname hargs
  refused := by
    intro command error herror
    exact (hfollows.step_of_answer herror).error.2

end Step

/-- A new store refines every history that it has. -/
theorem converse_refines (commands : List Command) :
    (converse commands {}).2.Refines (converse commands {}).1 :=
  (follows_empty.converse commands).refines

example :
    (converse [.ofTexts "hset" ["k", "a", "1", "a", "2", "b", "x"],
        .ofTexts "HIncrBy" ["k", "b", "1"], .ofTexts "del" ["k", "k"]] {}).1.map (·.2) =
      [.ok (.int 2), .error (.server "ERR hash value is not an integer"), .ok (.int 1)] :=
  rfl

end Store

end FullText
