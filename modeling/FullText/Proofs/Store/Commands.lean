import FullText.Proofs.OrderedMap
import FullText.Store

/-!
What the commands do to the hashes of a store. `Store.Step` tells the four commands that are carried
out apart and has one case for all that are refused, which are those that `Store.Accepts` excludes.
Later proofs look at these cases and not into the commands.
-/

namespace FullText

theorem Command.argTexts_ofTexts (name : String) (texts : List String) :
    (ofTexts name texts).argTexts = texts := by
  rw [argTexts, ofTexts, List.map_map]
  exact List.map_id texts

/-- The pairs in a list of alternating fields and values. -/
def alternating : List String → List (String × String)
  | field :: value :: rest => (field, value) :: alternating rest
  | _ => []

theorem alternating_ne_nil {texts : List String} (hne : texts ≠ []) (heven : texts.length % 2 = 0) :
    alternating texts ≠ [] := by
  match texts with
  | [] => exact absurd rfl hne
  | [_] => exact absurd heven (by simp)
  | _ :: _ :: _ => exact List.cons_ne_nil _ _

theorem alternating_flat (pairs : List (String × String)) :
    alternating (pairs.flatMap fun (name, text) => [name, text]) = pairs := by
  induction pairs with
  | nil => rfl
  | cons pair pairs ih => exact congrArg (pair :: ·) ih

namespace Store

/-- The hash at a key, which is empty if nothing is stored there. -/
def hashAt (hashes : OrderedMap Hash) (key : String) : Hash :=
  (hashes.get? key).getD ∅

/-- The integer that a stored text stands for; no text stands for zero. -/
def counted? : Option String → Option Int
  | none => some 0
  | some text => Decimal.readInt64? text

/-- The commands that are carried out where fields have certain texts. -/
def Accepts (text? : String → String → Option String) (command : Command) : Prop :=
  match Text.upper command.name with
  | "HSET" => ∃ key pairs, command.argTexts = key :: pairs ∧ pairs ≠ [] ∧ pairs.length % 2 = 0
  | "HGETALL" => ∃ key, command.argTexts = [key]
  | "DEL" => command.argTexts ≠ []
  | "HINCRBY" => ∃ key field text amount old, command.argTexts = [key, field, text] ∧
    Decimal.readInt64? text = some amount ∧ counted? (text? key field) = some old ∧
    Decimal.fitsInt64 (old + amount) = true
  | _ => False

/-- The text of a field of the hash at a key. -/
def textAt? (hashes : OrderedMap Hash) (key field : String) : Option String :=
  (hashAt hashes key).get? field

/-- How a command is answered, and which hashes it leaves. -/
inductive Step (command : Command) (hashes : OrderedMap Hash) :
    Except TransportError Reply → OrderedMap Hash → Prop where
  | refused (message : String) (hnot : ¬Accepts (textAt? hashes) command) :
      Step command hashes (.error (.server message)) hashes
  | set {key : String} {pairs : List String} (hname : Text.upper command.name = "HSET")
      (hargs : command.argTexts = key :: pairs) (hne : pairs ≠ [])
      (heven : pairs.length % 2 = 0) :
      Step command hashes
        (.ok (.int (((hashAt hashes key).putAll (alternating pairs)).names.removeAll
          (hashAt hashes key).names).length))
        (hashes.put key ((hashAt hashes key).putAll (alternating pairs)))
  | listed {key : String} (hname : Text.upper command.name = "HGETALL")
      (hargs : command.argTexts = [key]) :
      Step command hashes
        (.ok (.array ((hashAt hashes key).entries.flatMap fun (field, value) =>
          [.bulk field, .bulk value])))
        hashes
  | deleted (hname : Text.upper command.name = "DEL") (hargs : command.argTexts ≠ []) :
      Step command hashes
        (.ok (.int (hashes.names.removeAll (hashes.eraseAll command.argTexts).names).length))
        (hashes.eraseAll command.argTexts)
  | increased {key field text : String} {amount old : Int}
      (hname : Text.upper command.name = "HINCRBY")
      (hargs : command.argTexts = [key, field, text])
      (hamount : Decimal.readInt64? text = some amount)
      (hold : counted? (textAt? hashes key field) = some old)
      (hfits : Decimal.fitsInt64 (old + amount) = true) :
      Step command hashes (.ok (.int (old + amount)))
        (hashes.put key ((hashAt hashes key).put field (toString (old + amount))))

/-- A result is a step of a command that touches nothing but the hashes. -/
def Performs (command : Command) (store : Store)
    (result : Except TransportError Reply × Store) : Prop :=
  ∃ answer hashes, result = (answer, { store with hashes }) ∧
    Step command store.hashes answer hashes

section Commands

variable {command : Command} {store : Store}

theorem performs_refused (message : String) (hnot : ¬Accepts (textAt? store.hashes) command) :
    Performs command store (.error (.server message), store) :=
  ⟨_, _, rfl, .refused message hnot⟩

variable {text? : String → String → Option String}

theorem accepts_hset_iff (hname : Text.upper command.name = "HSET") :
    Accepts text? command ↔
      ∃ key pairs, command.argTexts = key :: pairs ∧ pairs ≠ [] ∧ pairs.length % 2 = 0 := by
  unfold Accepts
  rw [hname]
  exact Iff.rfl

theorem accepts_hgetall_iff (hname : Text.upper command.name = "HGETALL") :
    Accepts text? command ↔ ∃ key, command.argTexts = [key] := by
  unfold Accepts
  rw [hname]
  exact Iff.rfl

theorem accepts_del_iff (hname : Text.upper command.name = "DEL") :
    Accepts text? command ↔ command.argTexts ≠ [] := by
  unfold Accepts
  rw [hname]
  exact Iff.rfl

theorem accepts_hincrby_iff (hname : Text.upper command.name = "HINCRBY") :
    Accepts text? command ↔
      ∃ key field text amount old, command.argTexts = [key, field, text] ∧
        Decimal.readInt64? text = some amount ∧ counted? (text? key field) = some old ∧
        Decimal.fitsInt64 (old + amount) = true := by
  unfold Accepts
  rw [hname]
  exact Iff.rfl

theorem setFields_snd (pairs : List String) (hash : Hash) :
    (setFields pairs hash).2 = hash.putAll (alternating pairs) := by
  fun_induction setFields pairs hash with
  | case1 field value rest hash added set hset ih =>
      rw [hset] at ih
      exact ih
  | case2 pairs hash hshort =>
      match pairs, hshort with
      | [], _ | [_], _ => rfl
      | field :: value :: rest, hshort => exact absurd rfl (hshort field value rest)

theorem setFields_eq (hash : Hash) (pairs : List String) :
    setFields pairs hash =
      (((hash.putAll (alternating pairs)).names.removeAll hash.names).length,
        hash.putAll (alternating pairs)) := by
  -- The count is the growth, and the growth adds up along the list.
  suffices h : (setFields pairs hash).1 + hash.names.length =
      (hash.putAll (alternating pairs)).names.length by
    have hlength := hash.length_names_putAll (alternating pairs)
    exact Prod.ext (by omega) (setFields_snd pairs hash)
  rw [← setFields_snd]
  fun_induction setFields pairs hash with
  | case1 field value rest hash added set hset ih =>
      rw [hset, OrderedMap.names_put] at ih
      have hmem : hash.contains field = true ↔ field ∈ hash.names := OrderedMap.mem_names_iff.symm
      by_cases hold : field ∈ hash.names
      · rw [if_pos (hmem.mpr hold)]
        rw [if_pos hold] at ih
        exact ih
      · rw [if_neg (hold ∘ hmem.mp)]
        rw [if_neg hold, List.length_append, List.length_singleton] at ih
        simp only at ih ⊢
        omega
  | case2 pairs hash => exact Nat.zero_add _

theorem removeKeys_eq (hashes : OrderedMap Hash) (keys : List String) :
    removeKeys keys hashes =
      ((hashes.names.removeAll (hashes.eraseAll keys).names).length, hashes.eraseAll keys) := by
  suffices h : (removeKeys keys hashes).1 + (hashes.eraseAll keys).names.length =
      hashes.names.length ∧ (removeKeys keys hashes).2 = hashes.eraseAll keys by
    have hlength := length_removeAll_of_sublist (hashes.names_eraseAll_sublist keys)
      hashes.names_nodup
    exact Prod.ext (by omega) h.2
  fun_induction removeKeys keys hashes with
  | case1 hashes => exact ⟨Nat.zero_add _, rfl⟩
  | case2 key keys hashes removed left hleft ih =>
      rw [hleft] at ih
      rw [OrderedMap.eraseAll_cons]
      refine ⟨?_, ih.2⟩
      have hmem : hashes.contains key = true ↔ key ∈ hashes.names := OrderedMap.mem_names_iff.symm
      have hcount := ih.1
      rw [OrderedMap.names_erase_eq_erase] at hcount
      by_cases hstored : key ∈ hashes.names
      · rw [if_pos (hmem.mpr hstored)]
        have hpos := List.length_pos_of_mem hstored
        rw [List.length_erase_of_mem hstored] at hcount
        simp only at hcount ⊢
        omega
      · rw [if_neg (hstored ∘ hmem.mp)]
        rw [List.erase_of_not_mem hstored] at hcount
        exact hcount

theorem hset_performs (hname : Text.upper command.name = "HSET") :
    Performs command store (hset command.argTexts store) := by
  have haccepts : Accepts (textAt? store.hashes) command ↔ _ := accepts_hset_iff hname
  rcases hargs : command.argTexts with _ | ⟨key, pairs⟩
  · refine performs_refused _ ?_
    simp [haccepts, hargs]
  · by_cases hpairs : pairs ≠ [] ∧ pairs.length % 2 = 0
    · refine ⟨_, _, ?_, .set hname hargs hpairs.1 hpairs.2⟩
      have hfields := setFields_eq (hashAt store.hashes key) pairs
      simp only [hset, hash?, hashAt] at hfields ⊢
      rw [if_neg (by simpa using hpairs), hfields]
    · rw [hset, if_pos (by simpa [Classical.or_iff_not_imp_left] using hpairs)]
      refine performs_refused _ ?_
      rw [haccepts, hargs]
      rintro ⟨_, _, ⟨⟩, hne, heven⟩
      exact hpairs ⟨hne, heven⟩

theorem hgetall_performs (hname : Text.upper command.name = "HGETALL") :
    Performs command store (hgetall command.argTexts store) := by
  have haccepts : Accepts (textAt? store.hashes) command ↔ _ := accepts_hgetall_iff hname
  rcases hargs : command.argTexts with _ | ⟨key, _ | ⟨other, rest⟩⟩
  · refine performs_refused _ ?_
    simp [haccepts, hargs]
  · exact ⟨_, _, rfl, .listed hname hargs⟩
  · refine performs_refused _ ?_
    simp [haccepts, hargs]

theorem del_performs (hname : Text.upper command.name = "DEL") :
    Performs command store (del command.argTexts store) := by
  by_cases hargs : command.argTexts = []
  · rw [hargs]
    refine performs_refused _ ?_
    simp [accepts_del_iff hname, hargs]
  · rw [del, if_neg (by simpa using hargs), removeKeys_eq]
    exact ⟨_, _, rfl, .deleted hname hargs⟩

theorem counter_eq (hash : Hash) (field : String) :
    counter hash field = match counted? (hash.get? field) with
      | some n => .ok n
      | none => .error (.server "ERR hash value is not an integer") := by
  unfold counter counted?
  cases hash.get? field with
  | none => rfl
  | some text => rfl

theorem incremented_eq (hash : Hash) (field : String) (amount : Int) :
    incremented hash field amount = match counted? (hash.get? field) with
      | none => .error (.server "ERR hash value is not an integer")
      | some old =>
        if Decimal.fitsInt64 (old + amount) = true then .ok (old + amount)
        else .error (.server "ERR increment or decrement would overflow") := by
  rw [incremented, counter_eq]
  cases counted? (hash.get? field) with
  | none => rfl
  | some old => rfl

/-- A sum is told, or there is an error and no sum that fits. -/
theorem incremented_cases (hash : Hash) (field : String) (amount : Int) :
    (∃ old, counted? (hash.get? field) = some old ∧ Decimal.fitsInt64 (old + amount) = true ∧
      incremented hash field amount = .ok (old + amount)) ∨
    (∃ message, incremented hash field amount = .error (.server message)) ∧
      ∀ old, counted? (hash.get? field) = some old →
        Decimal.fitsInt64 (old + amount) = false := by
  rw [incremented_eq]
  cases counted? (hash.get? field) with
  | none => exact .inr ⟨⟨_, rfl⟩, nofun⟩
  | some old =>
      cases hfits : Decimal.fitsInt64 (old + amount) with
      | true => exact .inl ⟨old, rfl, hfits, by simp [hfits]⟩
      | false =>
          refine .inr ⟨⟨"ERR increment or decrement would overflow", by simp [hfits]⟩, ?_⟩
          rintro _ ⟨⟩
          exact hfits

theorem fitsInt64_of_readInt64? {text : String} {n : Int}
    (hread : Decimal.readInt64? text = some n) : Decimal.fitsInt64 n = true :=
  (Option.filter_eq_some_iff.mp hread).2

theorem hincrby_increased {key field text : String} {amount sum : Int}
    (hamount : Decimal.readInt64? text = some amount)
    (hsum : incremented (hashAt store.hashes key) field amount = .ok sum) :
    hincrby [key, field, text] store = (.ok (.int sum), { store with
      hashes := store.hashes.put key ((hashAt store.hashes key).put field (toString sum)) }) := by
  simp only [hincrby, hamount, hash?, hashAt] at hsum ⊢
  rw [hsum]

/-- An amount that is refused leaves the store as it is. -/
theorem hincrby_refused {key field text : String} {amount : Int} {error : TransportError}
    (hamount : Decimal.readInt64? text = some amount)
    (herror : incremented (hashAt store.hashes key) field amount = .error error) :
    hincrby [key, field, text] store = (.error error, store) := by
  have hrefused : hincrby [key, field, text] store =
      (.error error, { store with hashes := store.hashes.put key (hashAt store.hashes key) }) := by
    simp only [hincrby, hamount, hash?, hashAt] at herror ⊢
    rw [herror]
  -- The hash is put back as it was; an absent one would have let the amount in.
  cases hhash : store.hashes.get? key with
  | none =>
      have hsum : incremented (hashAt store.hashes key) field amount = .ok (0 + amount) := by
        rw [hashAt, hhash, incremented_eq]
        exact if_pos (by rw [Int.zero_add, fitsInt64_of_readInt64? hamount])
      rw [hsum] at herror
      cases herror
  | some hash => rw [hrefused, hashAt, hhash, Option.getD_some, OrderedMap.put_eq_self hhash]

theorem hincrby_performs (hname : Text.upper command.name = "HINCRBY") :
    Performs command store (hincrby command.argTexts store) := by
  have haccepts : Accepts (textAt? store.hashes) command ↔ _ := accepts_hincrby_iff hname
  rcases hargs : command.argTexts with _ | ⟨key, _ | ⟨field, _ | ⟨text, _ | ⟨other, rest⟩⟩⟩⟩
  case cons.cons.cons.nil =>
    cases hamount : Decimal.readInt64? text with
    | none =>
        rw [hincrby, hamount]
        refine performs_refused _ ?_
        rw [haccepts, hargs]
        rintro ⟨_, _, _, amount, _, ⟨⟩, hread, -⟩
        rw [hamount] at hread
        cases hread
    | some amount =>
        rcases incremented_cases (hashAt store.hashes key) field amount with
          ⟨old, hold, hfits, hsum⟩ | ⟨⟨message, herror⟩, hnosum⟩
        · rw [hincrby_increased hamount hsum]
          exact ⟨_, _, rfl, .increased hname hargs hamount hold hfits⟩
        · rw [hincrby_refused hamount herror]
          refine performs_refused message ?_
          rw [haccepts, hargs]
          rintro ⟨_, _, _, _, old, ⟨⟩, hread, hold, hfits⟩
          obtain rfl := Option.some.inj (hamount.symm.trans hread)
          rw [hnosum old hold] at hfits
          cases hfits
  all_goals
    refine performs_refused _ ?_
    simp [haccepts, hargs]

/-- Every command is one of the steps. -/
theorem perform_performs (command : Command) (store : Store) :
    Performs command store (perform command store) := by
  unfold perform
  split
  case h_1 hname => exact hset_performs hname
  case h_2 hname => exact hgetall_performs hname
  case h_3 hname => exact del_performs hname
  case h_4 hname => exact hincrby_performs hname
  case h_5 hhset hhgetall hdel hhincrby =>
    refine performs_refused _ ?_
    unfold Accepts
    split
    case h_1 hname => exact absurd hname hhset
    case h_2 hname => exact absurd hname hhgetall
    case h_3 hname => exact absurd hname hdel
    case h_4 hname => exact absurd hname hhincrby
    case h_5 => exact not_false

theorem execute_of_unprepared (hunprepared : store.prepared = ∅) (command : Command) :
    execute command store = perform command { store with sent := store.sent ++ [command] } := by
  have hnone : store.prepared.get? (Text.upper command.name) = none := by
    rw [hunprepared]
    rfl
  simp only [execute, hnone]

/-- A store without prepared answers carries every command out, and goes on without them. -/
theorem execute_step (hunprepared : store.prepared = ∅) (command : Command) :
    Step command store.hashes (execute command store).1 (execute command store).2.hashes ∧
      (execute command store).2.prepared = ∅ := by
  obtain ⟨answer, hashes, hperform, hstep⟩ :=
    perform_performs command { store with sent := store.sent ++ [command] }
  rw [execute_of_unprepared hunprepared, hperform]
  exact ⟨hstep, hunprepared⟩

/-- A command is answered without an error exactly if it is accepted. -/
theorem Step.ok_iff {hashes after : OrderedMap Hash} {answer : Except TransportError Reply}
    (hstep : Step command hashes answer after) :
    (∃ reply, answer = .ok reply) ↔ Accepts (textAt? hashes) command := by
  cases hstep with
  | refused message hnot => exact iff_of_false (by simp) hnot
  | set hname hargs hne heven =>
      exact iff_of_true ⟨_, rfl⟩ ((accepts_hset_iff hname).mpr ⟨_, _, hargs, hne, heven⟩)
  | listed hname hargs => exact iff_of_true ⟨_, rfl⟩ ((accepts_hgetall_iff hname).mpr ⟨_, hargs⟩)
  | deleted hname hargs => exact iff_of_true ⟨_, rfl⟩ ((accepts_del_iff hname).mpr hargs)
  | increased hname hargs hamount hold hfits =>
      exact iff_of_true ⟨_, rfl⟩
        ((accepts_hincrby_iff hname).mpr ⟨_, _, _, _, _, hargs, hamount, hold, hfits⟩)

/-! ### What each command does -/

section Step

variable {hashes after : OrderedMap Hash} {answer : Except TransportError Reply} {reply : Reply}

theorem hashAt_put_self (hashes : OrderedMap Hash) (key : String) (hash : Hash) :
    hashAt (hashes.put key hash) key = hash := by
  rw [hashAt, OrderedMap.get?_put, if_pos rfl, Option.getD_some]

theorem hashAt_put_of_ne {target key : String} (hne : target ≠ key) (hashes : OrderedMap Hash)
    (hash : Hash) : hashAt (hashes.put target hash) key = hashAt hashes key := by
  rw [hashAt, OrderedMap.get?_put, if_neg hne, hashAt]

theorem Step.hset (hstep : Step command hashes (.ok reply) after) {key : String}
    {pairs : List String} (hname : Text.upper command.name = "HSET")
    (hargs : command.argTexts = key :: pairs) :
    reply = .int ((hashAt after key).names.removeAll (hashAt hashes key).names).length := by
  cases hstep with
  | set _ hargs' =>
      obtain ⟨rfl, rfl⟩ := List.cons.inj (hargs.symm.trans hargs')
      rw [hashAt_put_self]
  | listed hother | deleted hother | increased hother =>
      exact absurd (hname.symm.trans hother) (by decide)

theorem Step.hgetall (hstep : Step command hashes answer after) {key : String}
    (hname : Text.upper command.name = "HGETALL") (hargs : command.argTexts = [key]) :
    answer = .ok (.array ((hashAt hashes key).entries.flatMap fun (field, value) =>
      [.bulk field, .bulk value])) := by
  cases hstep with
  | refused message hnot => exact absurd ((accepts_hgetall_iff hname).mpr ⟨key, hargs⟩) hnot
  | listed _ hargs' =>
      obtain ⟨rfl, -⟩ := List.cons.inj (hargs.symm.trans hargs')
      rfl
  | set hother | deleted hother | increased hother =>
      exact absurd (hname.symm.trans hother) (by decide)

theorem Step.del (hstep : Step command hashes (.ok reply) after)
    (hname : Text.upper command.name = "DEL") :
    reply = .int (hashes.names.removeAll after.names).length ∧
      ∀ key, key ∈ after.names ↔ key ∈ hashes.names ∧ key ∉ command.argTexts := by
  cases hstep with
  | deleted =>
      refine ⟨rfl, fun key => ?_⟩
      rw [OrderedMap.mem_names_iff, OrderedMap.mem_names_iff, OrderedMap.get?_eraseAll]
      split
      case isTrue hgone => simp [hgone]
      case isFalse hkept => simp [hkept]
  | set hother | listed hother | increased hother =>
      exact absurd (hname.symm.trans hother) (by decide)

theorem Step.hincrby (hstep : Step command hashes (.ok reply) after) {key field text : String}
    (hname : Text.upper command.name = "HINCRBY")
    (hargs : command.argTexts = [key, field, text]) :
    ∃ old amount, counted? (textAt? hashes key field) = some old ∧
      Decimal.readInt64? text = some amount ∧ reply = .int (old + amount) := by
  cases hstep with
  | increased _ hargs' hamount hold =>
      rw [hargs] at hargs'
      cases hargs'
      exact ⟨_, _, hold, hamount, rfl⟩
  | set hother | listed hother | deleted hother =>
      exact absurd (hname.symm.trans hother) (by decide)

theorem Step.error {error : TransportError} (hstep : Step command hashes (.error error) after) :
    (∃ message, error = .server message) ∧ after = hashes := by
  cases hstep with
  | refused message => exact ⟨⟨message, rfl⟩, rfl⟩

end Step

end Commands

end Store

end FullText
