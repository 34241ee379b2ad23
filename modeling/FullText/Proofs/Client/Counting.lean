import FullText.Client.Calls
import FullText.Proofs.Client.Resending
import FullText.Proofs.Store.Counters

/-!
Counting on the store in memory. Whoever adds to a field that is only ever added to is told the exact
sum of the amounts so far, or that the amount would take the sum out of range; and whoever reads the
hash finds the sum there.
-/

namespace FullText

namespace Client

/-- An answer that is not worth a retry and reports no known fault is told as it is. -/
theorem execute_of_plain {σ : Type} [Transport σ] (client : Client) {command : Command}
    {session : Session σ} {answer : Except TransportError Reply} {left : σ}
    (hanswer : Transport.execute command session.transport = (answer, left))
    (hlast : ¬RetryPolicy.Retried TransportError.isRetryable answer)
    (hunknown : faultBehind? (Transport.lastError left) answer = none) :
    ∃ after, client.execute command session = some (answer.mapError .transport, after) := by
  have hattempt := client.retry.attempt_of_not_retried hanswer hlast
  obtain ⟨result, after, hexecute, -, htells⟩ := execute_tells hattempt
  rw [htells.of_unknown hunknown] at hexecute
  exact ⟨after, hexecute⟩

/-- A client that adds to a counter is told the sum, or why the amount is refused. -/
theorem run_increment (client : Client) {session : Session Store} {key field : String}
    {amounts : List Int} (hcounting : session.transport.Counting key field amounts) {amount : Int}
    (hamount : Decimal.fitsInt64 amount = true) :
    (client.run (increment key field amount) session).map Prod.fst =
      some (if Decimal.fitsInt64 (amounts.sum + amount) = true then .ok (amounts.sum + amount)
        else .error (.transport (.server "ERR increment or decrement would overflow"))) := by
  have hname : Text.upper "HINCRBY" = "HINCRBY" := by decide
  have hadds : (Write.incrementCommand key field amount).amount? key field = some amount :=
    Command.amount?_eq_some_iff.mpr
      ⟨hname, toString amount, rfl, Decimal.readInt64?_toString hamount⟩
  have hanswer : Transport.execute (Write.incrementCommand key field amount) session.transport = _ :=
    hcounting.execute_eq hadds
  change (client.run (.send (Write.incrementCommand key field amount) _) session).map Prod.fst = _
  rw [run]
  by_cases hfits : Decimal.fitsInt64 (amounts.sum + amount) = true
  · rw [if_pos hfits] at hanswer ⊢
    obtain ⟨after, hexecute⟩ := client.execute_of_plain hanswer nofun rfl
    rw [hexecute]
    rfl
  · rw [if_neg hfits] at hanswer ⊢
    have hunknown : FaultKind.ofMessage? "ERR increment or decrement would overflow" = none := by
      decide
    obtain ⟨after, hexecute⟩ := client.execute_of_plain hanswer
      (fun hretried => nomatch retried_isRetryable_iff.mp hretried) hunknown
    rw [hexecute]
    rfl

end Client

/-- A field of the hash at a key counts: the sum of the amounts so far is what is added to, what is
told and what is shown. -/
structure Counts (store : Store) (key field : String) (amounts : List Int) : Prop where
  increased : ∀ command amount, command.amount? key field = some amount →
    Decimal.fitsInt64 (amounts.sum + amount) = true →
    (store.execute command).1 = .ok (.int (amounts.sum + amount))
  /-- An amount that would take the sum out of range is refused, and nothing is changed. -/
  refused : ∀ command amount, command.amount? key field = some amount →
    Decimal.fitsInt64 (amounts.sum + amount) = false →
    store.execute command = (.error (.server "ERR increment or decrement would overflow"),
      { store with sent := store.sent ++ [command] })
  told : ∀ (client : Client) (session : Session Store), session.transport = store →
    ∀ amount, Decimal.fitsInt64 amount = true →
      (client.run (Client.increment key field amount) session).map Prod.fst =
        some (if Decimal.fitsInt64 (amounts.sum + amount) = true then .ok (amounts.sum + amount)
          else .error (.transport (.server "ERR increment or decrement would overflow")))
  /-- The hash lists the field once, with the sum, or not at all before the first amount. -/
  shown : ∀ command, Text.upper command.name = "HGETALL" → command.argTexts = [key] →
    ∃ entries : List (String × String), (store.execute command).1 =
        .ok (.array (entries.flatMap fun (name, text) => [.bulk name, .bulk text])) ∧
      entries.filter (fun entry => entry.1 == field) =
        if amounts = [] then [] else [(field, toString amounts.sum)]

theorem Store.Counting.counts {store : Store} {key field : String} {amounts : List Int}
    (hcounting : store.Counting key field amounts) : Counts store key field amounts where
  increased command amount hamount hfits := by
    rw [hcounting.execute_eq hamount, if_pos hfits]
  refused command amount hamount hunfit := by
    rw [hcounting.execute_eq hamount, if_neg (by rw [hunfit]; exact Bool.false_ne_true)]
  told client session hsession amount hamount := by
    subst hsession
    exact client.run_increment hcounting hamount
  shown command hname hargs := by
    obtain ⟨hstep, -⟩ := Store.execute_step hcounting.unprepared command
    refine ⟨(Store.hashAt store.hashes key).entries, hstep.hgetall hname hargs, ?_⟩
    rw [OrderedMap.entries_filter, ← Store.textAt?, hcounting.textAt?_eq]
    split <;> rfl

/-- From any store without prepared answers in which a field is absent, through any commands that do
not overwrite it, the field counts the amounts that were added to it. -/
theorem counters_add_up (store : Store) (key field : String) (hunprepared : store.prepared = ∅)
    (habsent : Store.textAt? store.hashes key field = none) (commands : List Command)
    (hspared : ∀ command ∈ commands, command.overwrites key field = false) :
    Counts (Store.converse commands store).2 key field
      (added key field (Store.converse commands store).1) :=
  ((Store.counting_of_absent hunprepared habsent).converse hspared).counts

/-- A store with a page in it. -/
def pages : Store :=
  (Store.converse [.ofTexts "HSET" ["pages::1", "title", "Home"]] {}).2

/-- Visits that are counted up to the end of the range, between writes to other fields and keys. The
second amount is out of range. -/
def visits : List Command :=
  [.ofTexts "HINCRBY" ["pages::1", "visits", "9223372036854775800"],
    .ofTexts "HSET" ["pages::1", "title", "Start"],
    .ofTexts "hincrby" ["pages::1", "visits", "8"],
    .ofTexts "HINCRBY" ["pages::2", "visits", "1"],
    .ofTexts "DEL" ["pages::2"],
    .ofTexts "HINCRBY" ["pages::1", "visits", "-7"]]

/-- After the refused amount the count goes on from the same sum, up to the last integer in range. -/
theorem visits_add_up :
    pages.prepared = ∅ ∧ Store.textAt? pages.hashes "pages::1" "visits" = none ∧
    (∀ command ∈ visits, command.overwrites "pages::1" "visits" = false) ∧
    added "pages::1" "visits" (Store.converse visits pages).1 = [9223372036854775800, -7] ∧
    Counts (Store.converse visits pages).2 "pages::1" "visits" [9223372036854775800, -7] ∧
    (Store.execute (.ofTexts "HINCRBY" ["pages::1", "visits", "14"])
        (Store.converse visits pages).2).1 = .ok (.int 9223372036854775807) ∧
    (Store.execute (.ofTexts "HINCRBY" ["pages::1", "visits", "15"])
        (Store.converse visits pages).2).1 =
      .error (.server "ERR increment or decrement would overflow") := by
  have hunprepared : pages.prepared = ∅ := rfl
  have habsent : Store.textAt? pages.hashes "pages::1" "visits" = none := rfl
  have hspared : ∀ command ∈ visits, command.overwrites "pages::1" "visits" = false := by decide
  have hcounts := counters_add_up pages "pages::1" "visits" hunprepared habsent visits hspared
  have hadded : added "pages::1" "visits" (Store.converse visits pages).1 =
      [9223372036854775800, -7] := rfl
  rw [hadded] at hcounts
  have hlast := hcounts.increased (.ofTexts "HINCRBY" ["pages::1", "visits", "14"]) 14 rfl rfl
  have hbeyond := hcounts.refused (.ofTexts "HINCRBY" ["pages::1", "visits", "15"]) 15 rfl rfl
  exact ⟨hunprepared, habsent, hspared, hadded, hcounts, hlast, congrArg Prod.fst hbeyond⟩

end FullText
