import Mathlib.Data.Bool.Count
import Mathlib.Logic.Function.Basic
import MeteringAlarms.Proofs.Remote.Dialogue

/-!
# Two clients at one alarm

An update reads an alarm, merges the changes into its document and writes the whole of it back, and
nothing keeps another client from its own requests in between.  Here two updates of one alarm wait
for answers, each of them a `Dialogue`, and a schedule says whose request the service is given next.

What a race comes to is read off a board that has, for each client, the copy that it holds.  If the
one writes before the other reads, the changes of both are in the document; in every other order the
client that writes last puts back its own copy and the changes of the other are gone.
-/

namespace MeteringAlarms

namespace AlarmServer

variable (write : Fields → String) (newId : Nat → String) (address : String)

/-- Documents that were answered remain so. -/
theorem answered_serve (request : Http.Request) (server : AlarmServer) :
    server.answered ⊆ (server.serve write newId address request).2.answered := by
  have hcons (document : Fields) : server.answered ⊆ document :: server.answered :=
    fun _ hmem ↦ List.mem_cons_of_mem document hmem
  rw [serve]
  split
  · exact fun _ hmem ↦ hmem
  · split
    · split
      · exact hcons _
      · exact fun _ hmem ↦ hmem
    · rw [get]
      split
      · exact hcons _
      · exact fun _ hmem ↦ hmem
    · rw [put]
      split <;> exact fun _ hmem ↦ hmem
    · rw [delete]
      split <;> exact fun _ hmem ↦ hmem
    · exact fun _ hmem ↦ hmem

end AlarmServer

/-! ## The race -/

/-- A service and two clients, each of them done or waiting for an answer. -/
structure Race where
  server : AlarmServer
  clients : Bool → Dialogue (Except Failure Unit)
  /-- Whose requests were served so far, the latest first. -/
  served : List Bool := []

namespace Race

variable (remote : RemoteAlarms) (write : Fields → String) (newId : Nat → String)

/-- The service is given the request of a client, if that waits for an answer. -/
def turn (race : Race) (client : Bool) : Race :=
  match race.clients client with
  | .done _ => race
  | .ask request next =>
    let step := race.server.serve write newId remote.base request
    ⟨step.2, Function.update race.clients client (next (some step.1)), client :: race.served⟩

/-- The race after some turns, the latest first. -/
def run (start : Race) : List Bool → Race
  | [] => start
  | client :: earlier => (run start earlier).turn remote write newId client

/-- Two clients are about to update an alarm. -/
def ofUpdates (server : AlarmServer) (id : String) (changes : Bool → Fields) : Race where
  server
  clients client := (remote.update Dialogue.send id (changes client)).run

end Race

/-! ## The board -/

/-- What a client holds: nothing yet, a copy of the document, or nothing any more. -/
inductive Stage where
  | fresh
  | holding (copy : Fields)
  | through

/-- The document of an alarm and what two clients hold of it. -/
structure Board where
  document : Fields
  stages : Bool → Stage

namespace Board

/-- A client takes its copy, or puts it back with what it writes. -/
def turn (writes : Bool → Fields) (board : Board) (client : Bool) : Board :=
  match board.stages client with
  | .fresh =>
    { board with stages := Function.update board.stages client (.holding board.document) }
  | .holding copy =>
    ⟨AlarmDocument.merge copy (writes client), Function.update board.stages client .through⟩
  | .through => board

/-- The board after some turns, the latest first. -/
def after (writes : Bool → Fields) (document : Fields) : List Bool → Board
  | [] => ⟨document, fun _ ↦ .fresh⟩
  | client :: earlier => (after writes document earlier).turn writes client

variable (writes : Bool → Fields) (document : Fields)

theorem stages_turn_of_ne {board : Board} {client other : Bool} (h : other ≠ client) :
    (board.turn writes client).stages other = board.stages other := by
  rw [turn]
  split
  · exact Function.update_of_ne h _ _
  · exact Function.update_of_ne h _ _
  · rfl

/-- How often a client had its turn says what it holds. -/
theorem stages_after (served : List Bool) (client : Bool) :
    (served.count client = 0 ∧ (after writes document served).stages client = .fresh) ∨
    (served.count client = 1 ∧
      ∃ copy, (after writes document served).stages client = .holding copy) ∨
    (2 ≤ served.count client ∧ (after writes document served).stages client = .through) := by
  induction served with
  | nil => exact Or.inl ⟨rfl, rfl⟩
  | cons other earlier ih =>
    rw [after]
    by_cases hother : client = other
    · subst hother
      rw [List.count_cons_self, turn]
      rcases ih with ⟨hcount, hstage⟩ | ⟨hcount, copy, hstage⟩ | ⟨hcount, hstage⟩
      · rw [hstage]
        exact Or.inr (Or.inl ⟨by omega, _, Function.update_self ..⟩)
      · rw [hstage]
        exact Or.inr (Or.inr ⟨by omega, Function.update_self ..⟩)
      · rw [hstage]
        exact Or.inr (Or.inr ⟨by omega, hstage⟩)
    · rw [List.count_cons_of_ne (Ne.symm hother), stages_turn_of_ne writes hother]
      exact ih

/-- A field that nobody writes is the same in the document and in every copy. -/
theorem get?_after {key : String} (h : ∀ client, (writes client).get? key = none)
    (served : List Bool) :
    (after writes document served).document.get? key = document.get? key ∧
    ∀ client copy, (after writes document served).stages client = .holding copy →
      copy.get? key = document.get? key := by
  induction served with
  | nil => exact ⟨rfl, nofun⟩
  | cons other earlier ih =>
    obtain ⟨hdocument, hcopies⟩ := ih
    rw [after, turn]
    split
    · refine ⟨hdocument, fun client copy hcopy ↦ ?_⟩
      dsimp only at hcopy
      by_cases hclient : client = other
      · rw [hclient, Function.update_self] at hcopy
        cases hcopy
        exact hdocument
      · rw [Function.update_of_ne hclient] at hcopy
        exact hcopies client copy hcopy
    · rename_i held hheld
      refine ⟨?_, fun client copy hcopy ↦ ?_⟩
      · rw [AlarmDocument.get?_merge, h other]
        exact hcopies other held hheld
      · dsimp only at hcopy
        by_cases hclient : client = other
        · rw [hclient, Function.update_self] at hcopy
          cases hcopy
        · rw [Function.update_of_ne hclient] at hcopy
          exact hcopies client copy hcopy
    · exact ⟨hdocument, hcopies⟩

/-- Two turns of each, by who had the last: the other had both before, or they overlapped. -/
theorem served_cases {served : List Bool} (h : ∀ client, served.count client = 2) :
    ∃ last, served = [last, last, !last, !last] ∨ served = [last, !last, last, !last] ∨
      served = [last, !last, !last, last] := by
  have hlength : served.length = 4 := by
    rw [← List.count_not_add_count served true, h, h]
  revert h
  match served, hlength with
  | [a, b, c, d], _ =>
    revert a b c d
    decide

/-- What the last one put back is what it had taken. -/
theorem document_after (last : Bool) :
    (after writes document [last, last, !last, !last]).document =
        AlarmDocument.merge (AlarmDocument.merge document (writes !last)) (writes last) ∧
    (after writes document [last, !last, last, !last]).document =
        AlarmDocument.merge document (writes last) ∧
    (after writes document [last, !last, !last, last]).document =
        AlarmDocument.merge document (writes last) := by
  cases last <;> exact ⟨rfl, rfl, rfl⟩

end Board

namespace Race

variable {remote : RemoteAlarms} {write : Fields → String} {newId : Nat → String} {id : String}
  {changes : Bool → Fields}

/-- What two updates write. -/
def writes (changes : Bool → Fields) (client : Bool) : Fields :=
  AlarmDocument.ofFlat (changes client) false

/-- How the update of a client goes on, given what it holds. -/
def GoesOn (remote : RemoteAlarms) (id : String) (changes : Fields) :
    Stage → Dialogue (Except Failure Unit) → Prop
  | .fresh, talk => talk = (remote.update Dialogue.send id changes).run
  | .holding copy, talk => ∃ name, copy.get? Alarm.idField = some (.string name) ∧
      talk = remote.rewriting id changes ⟨name, copy.erase Alarm.idField⟩
  | .through, talk => talk = .done (.ok ())

/-- A race is as a board shows it. -/
structure Follows (remote : RemoteAlarms) (id : String) (changes : Bool → Fields) (race : Race)
    (board : Board) : Prop where
  available : race.server.unavailable = false
  stored : race.server.documents.get? id = some board.document
  clients : ∀ client, GoesOn remote id (changes client) (board.stages client) (race.clients client)

/-- A client that is done takes no more turns. -/
theorem turn_of_done {race : Race} {client : Bool} {outcome : Except Failure Unit}
    (h : race.clients client = .done outcome) : race.turn remote write newId client = race := by
  rw [turn, h]

theorem turn_of_ask {race : Race} {client : Bool} {request : Http.Request}
    {next : Option Http.Response → Dialogue (Except Failure Unit)}
    (h : race.clients client = .ask request next) {response : Http.Response}
    {server : AlarmServer}
    (hserve : race.server.serve write newId remote.base request = (response, server)) :
    race.turn remote write newId client =
      ⟨server, Function.update race.clients client (next (some response)),
        client :: race.served⟩ := by
  rw [turn, h]
  dsimp only
  rw [hserve]

/-- A client that is done stays so. -/
theorem clients_turn_of_done {race : Race} {other : Bool} {outcome : Except Failure Unit}
    (h : race.clients other = .done outcome) (client : Bool) :
    (race.turn remote write newId client).clients other = .done outcome := by
  cases hclient : race.clients client with
  | done _ => rw [turn_of_done hclient, h]
  | ask request next =>
    have hother : other ≠ client := by
      rintro rfl
      rw [hclient] at h
      cases h
    rw [turn_of_ask hclient rfl]
    exact (Function.update_of_ne hother _ _).trans h

/-- What was answered before a turn is what was answered after it, or less. -/
theorem answered_turn (race : Race) (client : Bool) :
    race.server.answered ⊆ (race.turn remote write newId client).server.answered := by
  cases hclient : race.clients client with
  | done _ =>
    rw [turn_of_done hclient]
    exact fun _ hmem ↦ hmem
  | ask request next =>
    rw [turn_of_ask hclient rfl]
    exact AlarmServer.answered_serve write newId remote.base request race.server

variable {race : Race} {board : Board} (h : race.Follows remote id changes board)
include h

/-- A client goes on and the other one is where it was. -/
theorem Follows.clients_update {client : Bool} {stage : Stage}
    {talk : Dialogue (Except Failure Unit)} (hgoes : GoesOn remote id (changes client) stage talk)
    (other : Bool) :
    GoesOn remote id (changes other) (Function.update board.stages client stage other)
      (Function.update race.clients client talk other) := by
  by_cases hother : other = client
  · subst hother
    rw [Function.update_self, Function.update_self]
    exact hgoes
  · rw [Function.update_of_ne hother, Function.update_of_ne hother]
    exact h.clients other

variable (write newId) in
/-- A copy is put back. -/
theorem Follows.turn_of_holding {client : Bool} {copy : Fields}
    (hstage : board.stages client = .holding copy) :
    (race.turn remote write newId client).Follows remote id changes
        (board.turn (writes changes) client) ∧
      (race.turn remote write newId client).served = client :: race.served := by
  have hclient := h.clients client
  rw [hstage] at hclient
  obtain ⟨name, hname, hclient⟩ := hclient
  have hcontains : race.server.documents.contains id = true := by
    rw [OrderedMap.contains_eq_isSome, h.stored, Option.isSome_some]
  have hserve : race.server.serve write newId remote.base
      (remote.writing id (changes client) ⟨name, copy.erase Alarm.idField⟩) =
        (⟨200, ""⟩, { race.server with
          documents := race.server.documents.insert id
            (AlarmDocument.merge copy (writes changes client)) }) := by
    refine (RemoteAlarms.serve_put write newId race.server id _).trans ?_
    rw [h.available, if_neg Bool.false_ne_true, AlarmServer.put, if_pos hcontains,
      Alarm.ofList_members_merge hname]
    rfl
  rw [turn_of_ask hclient hserve, Board.turn, hstage]
  refine ⟨⟨h.available, ?_, h.clients_update rfl⟩, rfl⟩
  rw [OrderedMap.get?_insert, if_pos rfl]

/-- A copy is taken, unless the alarm cannot be read. -/
theorem Follows.turn_of_fresh (hsend : remote.CanSend) {client : Bool}
    (hstage : board.stages client = .fresh)
    (hreads : RemoteAlarms.ReadsAnswers write (race.turn remote write newId client).server) :
    (∃ failure, (race.turn remote write newId client).clients client = .done (.error failure)) ∧
      (∀ name, board.document.get? Alarm.idField ≠ some (.string name)) ∨
    (race.turn remote write newId client).Follows remote id changes
        (board.turn (writes changes) client) ∧
      (race.turn remote write newId client).served = client :: race.served := by
  have hclient := h.clients client
  rw [hstage] at hclient
  replace hclient := hclient.trans (RemoteAlarms.run_update id (changes client) hsend)
  have hserve : race.server.serve write newId remote.base (remote.reading id) =
      (⟨200, write board.document⟩,
        { race.server with answered := board.document :: race.server.answered }) := by
    refine (RemoteAlarms.serve_get write newId race.server id).trans ?_
    rw [h.available, if_neg Bool.false_ne_true, AlarmServer.get, h.stored]
  rw [turn_of_ask hclient hserve] at hreads ⊢
  have hdocument : Document.Reads (write board.document) board.document :=
    hreads board.document List.mem_cons_self
  have hafter := @RemoteAlarms.afterReading_of_isSuccess id remote (changes client)
    ⟨200, write board.document⟩ rfl
  cases halarm : Alarm.ofText? (write board.document) with
  | none =>
    rw [halarm] at hafter
    rw [hafter]
    refine Or.inl ⟨⟨_, Function.update_self ..⟩, fun name hname ↦ ?_⟩
    rw [Alarm.ofText?_of_reads hdocument hname] at halarm
    cases halarm
  | some alarm =>
    have hname := Alarm.get?_idField_of_ofText? hdocument halarm
    rw [Alarm.ofText?_of_reads hdocument hname] at hafter
    refine Or.inr ⟨?_, rfl⟩
    rw [Board.turn, hstage, hafter]
    exact ⟨h.available, h.stored, h.clients_update ⟨alarm.id, hname, rfl⟩⟩

omit h

section Counts

variable {served schedule : List Bool}
  (hcounts : ∀ client, served.count client = min 2 (schedule.count client)) {client : Bool}
include hcounts

/-- A turn counts where the client is served. -/
theorem count_cons_served (hless : served.count client < 2) (other : Bool) :
    (client :: served).count other = min 2 ((client :: schedule).count other) := by
  have hcount := hcounts other
  by_cases hother : client = other
  · subst hother
    rw [List.count_cons_self, List.count_cons_self]
    omega
  · rw [List.count_cons_of_ne hother, List.count_cons_of_ne hother]
    exact hcount

/-- A turn of a client that was served twice does not count. -/
theorem count_cons_waiting (htwo : 2 ≤ served.count client) (other : Bool) :
    served.count other = min 2 ((client :: schedule).count other) := by
  have hcount := hcounts other
  by_cases hother : client = other
  · subst hother
    rw [List.count_cons_self]
    omega
  · rw [List.count_cons_of_ne hother]
    exact hcount

end Counts

/-- In a race that is not over for want of a readable alarm, the board shows what was served, and
each client was served as often as it had its turn, but not more than twice. -/
theorem run_cases {server : AlarmServer} {document : Fields} (hsend : remote.CanSend)
    (hup : server.unavailable = false) (hstored : server.documents.get? id = some document)
    (hid : document.get? Alarm.idField = some (.string id)) (schedule : List Bool)
    (hreads : RemoteAlarms.ReadsAnswers write
      (run remote write newId (ofUpdates remote server id changes) schedule).server) :
    let race := run remote write newId (ofUpdates remote server id changes) schedule
    (∃ client failure, race.clients client = .done (.error failure)) ∧
      (∃ client, (writes changes client).get? Alarm.idField ≠ none) ∨
    race.Follows remote id changes (Board.after (writes changes) document race.served) ∧
      ∀ client, race.served.count client = min 2 (schedule.count client) := by
  induction schedule with
  | nil => exact Or.inr ⟨⟨hup, hstored, fun _ ↦ rfl⟩, fun _ ↦ rfl⟩
  | cons client earlier ih =>
    rw [run] at hreads ⊢
    have hbefore := ih fun document hmem ↦ hreads document (answered_turn _ client hmem)
    revert hbefore hreads
    generalize run remote write newId (ofUpdates remote server id changes) earlier = race
    intro hreads hbefore
    dsimp only at hbefore ⊢
    rcases hbefore with ⟨⟨other, failure, hother⟩, hnamed⟩ | ⟨hfollows, hcounts⟩
    · exact Or.inl ⟨⟨other, failure, clients_turn_of_done hother client⟩, hnamed⟩
    rcases Board.stages_after (writes changes) document race.served client with
      ⟨hzero, hfresh⟩ | ⟨hone, copy, hcopy⟩ | ⟨htwo, hthrough⟩
    · rcases hfollows.turn_of_fresh hsend hfresh hreads with
        ⟨⟨failure, hfailed⟩, hnameless⟩ | ⟨hturn, hafter⟩
      · refine Or.inl ⟨⟨client, failure, hfailed⟩, ?_⟩
        by_contra hplain
        have hnone (other : Bool) : (writes changes other).get? Alarm.idField = none :=
          not_not.1 fun hsome ↦ hplain ⟨other, hsome⟩
        exact hnameless id
          ((Board.get?_after (writes changes) document hnone race.served).1.trans hid)
      · rw [hafter]
        exact Or.inr ⟨hturn, count_cons_served hcounts (by omega)⟩
    · obtain ⟨hturn, hafter⟩ := hfollows.turn_of_holding write newId hcopy
      rw [hafter]
      exact Or.inr ⟨hturn, count_cons_served hcounts (by omega)⟩
    · have hdone := hfollows.clients client
      rw [hthrough] at hdone
      rw [turn_of_done hdone]
      exact Or.inr ⟨hfollows, count_cons_waiting hcounts htwo⟩

/-- Updates that have succeeded are those that were served twice. -/
theorem Follows.done_iff {race : Race} {document : Fields} (hsend : remote.CanSend)
    (h : race.Follows remote id changes (.after (writes changes) document race.served))
    (client : Bool) : race.clients client = .done (.ok ()) ↔ 2 ≤ race.served.count client := by
  have hclient := h.clients client
  rcases Board.stages_after (writes changes) document race.served client with
    ⟨hzero, hfresh⟩ | ⟨hone, copy, hcopy⟩ | ⟨htwo, hthrough⟩
  · rw [hfresh] at hclient
    rw [hclient.trans (RemoteAlarms.run_update id (changes client) hsend)]
    exact iff_of_false nofun (by omega)
  · rw [hcopy] at hclient
    obtain ⟨name, -, hclient⟩ := hclient
    rw [hclient]
    exact iff_of_false nofun (by omega)
  · rw [hthrough] at hclient
    exact iff_of_true hclient htwo

/-- A document that has the changes of both merged in shows both, if they are compatible. -/
theorem shows_of_compatible (document : Fields) {last : Bool}
    (h : AlarmDocument.Compatible (writes changes !last) (writes changes last)) (client : Bool) :
    AlarmDocument.Shows (AlarmDocument.merge (AlarmDocument.merge document (writes changes !last))
      (writes changes last)) (writes changes client) := by
  by_cases hlast : client = last
  · rw [hlast]
    exact AlarmDocument.shows_merge _ _
  · rw [Bool.eq_not_of_ne hlast]
    exact (AlarmDocument.shows_merge document _).merge h

/-- Two clients update one alarm, and their requests are served in any order.  Unless changes name
the id, both updates succeed once each client had two turns.  When both have succeeded and they took
turns, the one done before the other began, the document has the changes of the first merged into it
and then those of the second.  It shows both if they are of different properties and name none that
nesting writes itself, and whenever what is merged is compatible.  When they overlapped, it is the
document from before both with the changes of the client that wrote last, and of no other. -/
theorem updates_in_turn_kept {server : AlarmServer} {document : Fields} (hsend : remote.CanSend)
    (hup : server.unavailable = false) (hstored : server.documents.get? id = some document)
    (hid : document.get? Alarm.idField = some (.string id)) (schedule : List Bool)
    (hreads : RemoteAlarms.ReadsAnswers write
      (run remote write newId (ofUpdates remote server id changes) schedule).server) :
    let race := run remote write newId (ofUpdates remote server id changes) schedule
    ((∀ client, (writes changes client).get? Alarm.idField = none) →
      ((∀ client, race.clients client = .done (.ok ())) ↔
        ∀ client, 2 ≤ schedule.count client)) ∧
    ((∀ client, race.clients client = .done (.ok ())) → ∃ last stored,
      race.served.head? = some last ∧ race.server.documents.get? id = some stored ∧
      (race.served = [last, last, !last, !last] →
        stored = AlarmDocument.merge (AlarmDocument.merge document (writes changes !last))
          (writes changes last) ∧
        ((∀ client, AlarmDocument.IsUnnested (changes client)) →
          (∀ key, (changes !last).get? key = none ∨ (changes last).get? key = none) →
          ∀ client, AlarmDocument.Shows stored (writes changes client)) ∧
        (AlarmDocument.Compatible (writes changes !last) (writes changes last) →
          ∀ client, AlarmDocument.Shows stored (writes changes client))) ∧
      (race.served ≠ [last, last, !last, !last] →
        stored = AlarmDocument.merge document (writes changes last))) := by
  intro race
  have hcases := run_cases hsend hup hstored hid schedule hreads
  change _ ∨ race.Follows remote id changes _ ∧ ∀ client, race.served.count client = _ at hcases
  refine ⟨fun hplain ↦ ?_, fun hdone ↦ ?_⟩
  · rcases hcases with ⟨-, client, hnamed⟩ | ⟨hfollows, hcounts⟩
    · exact absurd (hplain client) hnamed
    · refine forall_congr' fun client ↦ (hfollows.done_iff hsend client).trans ?_
      have hcount := hcounts client
      omega
  · rcases hcases with ⟨⟨client, failure, hfailed⟩, -⟩ | ⟨hfollows, hcounts⟩
    · have hboth := hfailed.symm.trans (hdone client)
      cases hboth
    · have htwo (client : Bool) : race.served.count client = 2 := by
        have hserved := (hfollows.done_iff hsend client).1 (hdone client)
        have hcount := hcounts client
        omega
      obtain ⟨last, hserved⟩ := Board.served_cases htwo
      obtain ⟨hserial, hcrossed, hnested⟩ :=
        Board.document_after (writes changes) document last
      have hstored := hfollows.stored
      refine ⟨last, _, ?_, hstored, fun hturns ↦ ?_, fun hoverlap ↦ ?_⟩
      · rcases hserved with hserved | hserved | hserved <;> rw [hserved] <;> rfl
      · rw [hturns, hserial]
        refine ⟨rfl, fun hunnested hapart ↦ ?_, shows_of_compatible document⟩
        exact shows_of_compatible document
          (AlarmDocument.compatible_ofFlat (hunnested _) (hunnested _) hapart)
      · rcases hserved with hserved | hserved | hserved
        · exact absurd hserved hoverlap
        · rw [hserved, hcrossed]
        · rw [hserved, hnested]

/-- One client changes the threshold, then another one switches the alarm off, and both changes are
in the document. -/
theorem updates_in_turn_kept_of_threshold_and_switch :
    let remote : RemoteAlarms := ⟨"http://alarms", none⟩
    let write (fields : Fields) := (Json.ofFields fields).compact
    let newId (n : Nat) := String.ofList (List.replicate n 'a')
    let document : Fields := .ofList [("alarm_id", .string "a"), ("enabled", .bool true),
      ("threshold_rule", .ofEntries [("threshold", .number (.int 70))])]
    let server : AlarmServer := { documents := .ofList [("a", document)], issued := 2 }
    let changes (client : Bool) : Fields :=
      .ofList [if client then ("enabled", .bool false) else ("threshold", .number (.int 80))]
    remote.CanSend ∧ server.unavailable = false ∧ server.documents.get? "a" = some document ∧
    document.get? Alarm.idField = some (.string "a") ∧ ∃ race,
      run remote write newId (ofUpdates remote server "a" changes) [true, true, false, false] =
        race ∧
      RemoteAlarms.ReadsAnswers write race.server ∧
      (∀ client, race.clients client = .done (.ok ())) ∧
      ∃ stored, race.server.documents.get? "a" = some stored ∧
        ∀ client, AlarmDocument.Shows stored (writes changes client) := by
  intro remote write newId document server changes
  have hsend : remote.CanSend := by decide +kernel
  have hstored : server.documents.get? "a" = some document := by decide +kernel
  have hid : document.get? Alarm.idField = some (.string "a") := by decide +kernel
  have hplain : ∀ client, (writes changes client).get? Alarm.idField = none := by decide +kernel
  have hunnested (client : Bool) : AlarmDocument.IsUnnested (changes client) := by
    cases client <;> exact ⟨rfl, rfl, rfl⟩
  have hapart (key : String) :
      (changes false).get? key = none ∨ (changes true).get? key = none := by
    by_cases hkey : key = "threshold"
    · rw [hkey]
      exact Or.inr (by decide +kernel)
    · exact Or.inl ((OrderedMap.get?_ofList_singleton ..).trans (if_neg hkey))
  have hrun :
      let race := run remote write newId (ofUpdates remote server "a" changes)
        [true, true, false, false]
      RemoteAlarms.ReadsAnswers write race.server ∧ race.served = [true, true, false, false] := by
    decide +kernel
  obtain ⟨hreads, hserved⟩ := hrun
  obtain ⟨hends, hkept⟩ :=
    updates_in_turn_kept hsend rfl hstored hid [true, true, false, false] hreads
  have hdone := (hends hplain).2 (by decide)
  refine ⟨hsend, rfl, hstored, hid, _, rfl, hreads, hdone, ?_⟩
  obtain ⟨last, stored, hlast, hfound, hturns, -⟩ := hkept hdone
  rw [hserved] at hlast hturns
  obtain rfl : true = last := Option.some.inj hlast
  exact ⟨stored, hfound, (hturns rfl).2.1 hunnested hapart⟩

/-- Both clients read before either writes: both updates succeed, and the new threshold of the first
is overwritten by the copy of the other one, which only switches the alarm off. -/
theorem update_lost_of_overlap :
    let remote : RemoteAlarms := ⟨"http://alarms", none⟩
    let write (fields : Fields) := (Json.ofFields fields).compact
    let newId (n : Nat) := String.ofList (List.replicate n 'a')
    let document : Fields := .ofList [("alarm_id", .string "a"), ("enabled", .bool true),
      ("threshold_rule", .ofEntries [("threshold", .number (.int 70))])]
    let server : AlarmServer := { documents := .ofList [("a", document)], issued := 2 }
    let changes (client : Bool) : Fields :=
      .ofList [if client then ("enabled", .bool false) else ("threshold", .number (.int 80))]
    (∀ key, (changes false).get? key = none ∨ (changes true).get? key = none) ∧ ∃ race,
      run remote write newId (ofUpdates remote server "a" changes) [true, false, true, false] =
        race ∧
      RemoteAlarms.ReadsAnswers write race.server ∧
      (∀ client, race.clients client = .done (.ok ())) ∧
      race.server.documents.get? "a" = some (document.insert "enabled" (.bool false)) ∧
      ¬AlarmDocument.Shows (document.insert "enabled" (.bool false)) (writes changes false) := by
  intro remote write newId document server changes
  have hsend : remote.CanSend := by decide +kernel
  have hstored : server.documents.get? "a" = some document := by decide +kernel
  have hid : document.get? Alarm.idField = some (.string "a") := by decide +kernel
  have hplain : ∀ client, (writes changes client).get? Alarm.idField = none := by decide +kernel
  have hapart (key : String) :
      (changes false).get? key = none ∨ (changes true).get? key = none := by
    by_cases hkey : key = "threshold"
    · rw [hkey]
      exact Or.inr (by decide +kernel)
    · exact Or.inl ((OrderedMap.get?_ofList_singleton ..).trans (if_neg hkey))
  have hrun :
      let race := run remote write newId (ofUpdates remote server "a" changes)
        [true, false, true, false]
      RemoteAlarms.ReadsAnswers write race.server ∧ race.served = [true, false, true, false] := by
    decide +kernel
  obtain ⟨hreads, hserved⟩ := hrun
  have hafter : (Board.after (writes changes) document [true, false, true, false]).document =
      document.insert "enabled" (.bool false) := by
    refine (Board.document_after (writes changes) document true).2.1.trans ?_
    decide +kernel
  rcases run_cases hsend rfl hstored hid [true, false, true, false] hreads with
    ⟨-, client, hnamed⟩ | ⟨hfollows, hcounts⟩
  · exact absurd (hplain client) hnamed
  refine ⟨hapart, _, rfl, hreads, fun client ↦ ?_, ?_, fun hshows ↦ ?_⟩
  · refine (hfollows.done_iff hsend client).2 ?_
    rw [hserved]
    cases client <;> decide
  · have hfound := hfollows.stored
    rw [hserved, hafter] at hfound
    exact hfound
  · obtain ⟨current, hcurrent, hcovers⟩ := hshows AlarmDocument.thresholdRule
      (.ofFields (.ofList [("threshold", .number (.int 80))])) (by decide +kernel)
    have hkept : (document.insert "enabled" (.bool false)).get? AlarmDocument.thresholdRule =
        some (.ofFields (.ofList [("threshold", .number (.int 70))])) := by
      decide +kernel
    rw [hkept, Option.some.injEq] at hcurrent
    rw [← hcurrent, AlarmDocument.covers_ofFields_iff] at hcovers
    have hthreshold := hcovers "threshold" (.number (.int 80)) (by decide +kernel)
    exact absurd hthreshold (by decide +kernel)

end Race

end MeteringAlarms
