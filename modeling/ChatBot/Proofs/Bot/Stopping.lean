import ChatBot.Proofs.Bot.Outbox
import ChatBot.Proofs.Bot.Uses

/-!
# What a sender leaves when it is stopped

A sender that is asked to stop may find messages in the outbox, for instance because the transport
took its time with the one before.  It is free to stop at once.  What it leaves is not lost, since
the next sender finds it; but if there is no next sender, it is not sent either.

* `Stage.serve_ends`: how a sender ends its work.
* `Chronicle.stopped_sender_leaves`: what becomes of the messages that are queued when the bot has
  shut down, until its sender ends.
* `Stage.shutdown_abandons_reply`: a reply that is left behind.
-/

namespace ChatBot

namespace Stage

variable {s s' : Stage} {company : Company} {number : Option Nat} {since : Nat}

theorem outbox_arrive (s : Stage) (h : Handover) : (s.arrive h).bot.outbox = s.bot.outbox := by
  rw [arrive]
  split
  · exact Errand.outbox_announce s _
  · rfl

theorem outbox_deliver (s : Stage) (company : Company) (m : Message) :
    (s.deliver company m).2.bot.outbox = s.bot.outbox := by
  rw [deliver]
  split
  · rfl
  · split
    · exact Errand.outbox_announce s m
    · dsimp only
      split
      · exact outbox_arrive _ _
      · rfl

theorem outbox_releaseOutbox (s : Stage) (number : Option Nat) :
    (s.releaseOutbox number).bot.outbox = { s.bot.outbox with receiver := .free } :=
  (quiet_endSender _ number (.ok ())).outbox

/-- A sender that ends gives the receiving end back.  If it never stops as long as there are
messages, it has handed on all of them. -/
theorem serve_ends {queue : List Message} (hq : s.bot.outbox.queue = queue)
    (h : serve company number since queue s = (none, s')) :
    s'.bot.outbox.receiver = .free ∧
      ((∀ b, company.stopsFirst b = false) → s'.bot.outbox.queue = []) := by
  induction queue generalizing s with
  | nil =>
      rw [serve] at h
      split at h
      · cases h
        rw [outbox_releaseOutbox]
        exact ⟨rfl, fun _ => hq⟩
      · cases h
  | cons m rest ih =>
      rw [serve] at h
      split at h
      · rename_i hstop
        cases h
        rw [outbox_releaseOutbox]
        refine ⟨rfl, fun hc => ?_⟩
        rw [hc, Bool.and_false] at hstop
        cases hstop
      · have hout := outbox_deliver (s.withOutbox fun o => { o with queue := rest }) company m
        split at h
        · cases h
        · rename_i s₁ hd
          rw [hd] at hout
          exact ih (congrArg Outbox.queue hout) h

/-- So it is at the end of its last turn. -/
theorem pollSender_ends {state : SenderState} (hstate : state ≠ .fresh)
    (h : s.pollSender company number state = (none, s')) :
    s'.bot.outbox.receiver = .free ∧
      ((∀ b, company.stopsFirst b = false) → s'.bot.outbox.queue = []) := by
  cases state with
  | fresh => exact absurd rfl hstate
  | listening since => exact serve_ends rfl h
  | sending since handover time =>
      rw [pollSender] at h
      split at h
      · exact serve_ends rfl h
      · cases h

end Stage

namespace Chronicle

variable {χ χ' : Chronicle}

/-- What is queued is taken out before what is put in later. -/
theorem Reachable.queue_steps (h : Reachable χ) (hl : χ.stage.bot.outbox.receiver ≠ .lost)
    (hs : Steps χ χ') (hl' : χ'.stage.bot.outbox.receiver ≠ .lost) : ∃ taken later,
      χ'.dequeued = χ.dequeued ++ taken ∧ χ'.posted = χ.posted ++ later ∧
      taken.map (·.1) ++ χ'.stage.bot.outbox.queue = χ.stage.bot.outbox.queue ++ later := by
  obtain ⟨h', rs, hrs⟩ := h.steps hs
  obtain ⟨loop, hledger⟩ := h.ledger
  obtain ⟨loop', hledger'⟩ := h'.ledger
  have hd : χ'.dequeued = χ.dequeued ++ rs.filterMap (·.deed.dequeued?) := by
    rw [dequeued, hrs, List.filterMap_append]
    rfl
  have hp : χ'.posted = χ.posted ++ rs.filterMap (·.deed.posted?) := by
    rw [posted, hrs, List.filterMap_append]
    rfl
  have hq := hledger'.queued hl'
  rw [hp, hd, hledger.queued hl, List.map_append, List.append_assoc, List.append_assoc] at hq
  exact ⟨_, _, hd, hp, (List.append_cancel_left hq).symm⟩

/-- **What a stopped sender leaves.**  The bot gives the stop signal while a sender has the receiving
end of the outbox.  After any steps that sender has its last turn, whichever way it chooses when
there are messages, and however long the transport takes.  Then all that was queued at the signal,
followed by what was posted later, is what the sender took out, followed by what is still queued;
what was taken out has been given to the transport and announced, as far as it is to be; and the
receiving end is free for the next sender.  Nothing at all is left by a sender that never stops as
long as there are messages. -/
theorem stopped_sender_leaves (h : Reachable χ) (hbusy : χ.loops ≠ [])
    (hs : Steps (χ.pass χ.stage.signalStop) χ') {id : Nat} {number : Option Nat}
    {state : SenderState} {rest : List (Nat × Errand)} {company : Company} {s : Stage}
    (hr : χ'.running = (id, .activity (.sender number state)) :: rest) (hstate : state ≠ .fresh)
    (hend : χ'.stage.pollSender company number state = (none, s)) :
    ∃ χ'' taken later, Steps χ' χ'' ∧ χ''.stage = s ∧ χ''.running = rest ∧
      χ''.dequeued = χ.dequeued ++ taken ∧ χ''.posted = χ.posted ++ later ∧
      taken.map (·.1) ++ s.bot.outbox.queue = χ.stage.bot.outbox.queue ++ later ∧
      s.bot.handed = χ''.dequeued.filterMap handover? ∧
      χ''.announced.map (·.1) = χ''.dequeued.filterMap announcement? ∧
      s.bot.outbox.receiver = .free ∧
      ((∀ b, company.stopsFirst b = false) → s.bot.outbox.queue = []) := by
  have hsteps : Steps χ χ' := .head .stop hs
  have h' := (h.steps hsteps).1
  -- the turn is made of steps
  have hturn := Errand.leads_pollSender (s := χ'.stage) company number state
  rw [hend] at hturn
  obtain ⟨χ'', hmoves, -, rfl, hrunning⟩ := h'.orderly.getsTo_of_leads hr hturn
  have hlast : Steps χ' χ'' := Relation.ReflTransGen.mono (fun _ _ hm => hm.step) _ _ hmoves
  obtain ⟨hfree, hdrained⟩ := Stage.pollSender_ends hstate hend
  -- before the signal and after the turn nothing is lost
  have htaken : χ.stage.bot.outbox.receiver ≠ .lost := by
    obtain ⟨loop, hledger⟩ := h.ledger
    rw [hledger.loops] at hbusy
    cases loop with
    | none => exact absurd rfl hbusy
    | some state =>
        rw [hledger.taken.mpr rfl]
        decide
  have hkept : χ''.stage.bot.outbox.receiver ≠ .lost := by
    rw [hfree]
    decide
  obtain ⟨taken, later, hd, hp, hq⟩ := h.queue_steps htaken (hsteps.trans hlast) hkept
  obtain ⟨loop, hledger⟩ := (h'.steps hlast).1.ledger
  obtain rfl : loop = none := by
    cases loop with
    | none => rfl
    | some state => exact absurd ((hledger.taken.mpr rfl).symm.trans hfree) (by decide)
  have ha := hledger.announced hkept
  rw [Option.elim_none, List.append_nil] at ha
  exact ⟨χ'', taken, later, hlast, rfl, hrunning, hd, hp, hq, hledger.handed, ha, hfree, hdrained⟩

namespace Sample

/-- Another message is queued while the transport is busy. -/
def second : Message := { body := .text "two", sender := "echo", address := .external "room" }

def crowded : Chronicle :=
  { handing.pass (handing.stage.post second) with
    history := handing.history ++ [⟨none, .posted second⟩] }

/-- The sender is asked to stop. -/
def stopped : Chronicle := crowded.pass crowded.stage.signalStop

end Sample

/-- The message that was on its way is announced, and the other one stays. -/
theorem stopped_sender_leaves_sample :
    Reachable Sample.crowded ∧ Sample.crowded.loops ≠ [] ∧
      (Sample.stopped.stage.pollSender {} none
        (.sending 0 ⟨Sample.parcel.outward, true⟩ 0)).1 = none ∧
      ∃ χ, Steps Sample.stopped χ ∧ χ.stage.bot.outbox = ⟨[Sample.second], .free, 1⟩ ∧
        χ.announced.map (·.1) = χ.dequeued.filterMap announcement? := by
  have hr : Reachable Sample.crowded := Sample.reachable_handing.step (.post Sample.second) trivial
  have hloops : Sample.crowded.loops = [.sending 0 ⟨Sample.parcel.outward, true⟩ 0] := rfl
  have hbusy : Sample.crowded.loops ≠ [] := by
    rw [hloops]
    exact List.cons_ne_nil _ _
  have hend : (Sample.stopped.stage.pollSender {} none
      (.sending 0 ⟨Sample.parcel.outward, true⟩ 0)).1 = none := by with_unfolding_all rfl
  have hrunning : Sample.stopped.running =
      (0, .activity (.sender none (.sending 0 ⟨Sample.parcel.outward, true⟩ 0))) :: [] := rfl
  obtain ⟨χ, taken, later, hs, hstage, -, -, -, -, -, ha, -⟩ :=
    stopped_sender_leaves hr hbusy .refl hrunning (by simp) (Prod.ext hend rfl)
  refine ⟨hr, hbusy, hend, χ, hs, ?_, ha⟩
  rw [hstage]
  with_unfolding_all rfl

end Chronicle

namespace Stage

namespace Sample

/-- A command that answers at once. -/
def swift : Bot := Bot.Sample.bare.afterEdits [.add "a" "" (.custom fun _ => .done (.ok "z"))]

/-- The transport takes its time with every message. -/
def slowTransport : Company where
  transport _ := { span := 10 }

def call : Message where
  body := .text "!a"
  sender := "alice"
  address := .external "room"

/-- The command was called twice.  One reply is on its way, and the other one is queued. -/
def answered : Stage :=
  ((((ofBot swift).startSender.2.receive call).2.receive call).2.settle slowTransport.program)

/-- Shutdown, and the time that the transport takes. -/
def afterwards : Stage := (answered.shutdown slowTransport).advance slowTransport.program 10

end Sample

/-- The sender has ended, and a reply that was queued when it was asked to stop is queued still. -/
theorem shutdown_abandons_reply :
    (Sample.answered.windUp Sample.slowTransport).1 = true ∧
      ((Sample.answered.windUp Sample.slowTransport).2.bot.outbox.queue.map (·.text)) = ["z"] ∧
      Sample.afterwards.ready.length + Sample.afterwards.parked.length = 0 ∧
      Sample.afterwards.bot.outbox.queue.map (·.text) = ["z"] ∧ Sample.afterwards.bot.handed.length = 1 := by
  decide +kernel

end Stage

end ChatBot
