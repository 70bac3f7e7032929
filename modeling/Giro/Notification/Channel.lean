import Giro.Notification.Event

/-!
# Notification channel

A bounded queue of envelopes between publishers and a worker. Publishing never
waits: a full queue refuses the event. The worker reads envelopes in order,
passes over those of other topics and hands an email for each of the others to
the mailer.
-/

namespace Giro

/-- A message on the channel. -/
structure Envelope where
  topic : String
  payload : String
deriving DecidableEq

/-- Why an event is not accepted for publication. -/
inductive PublishFault
  | full
  | closed
deriving DecidableEq

namespace PublishFault

/-- What is reported about an event that is not accepted. -/
def message : PublishFault -> String
  | full => "Notification channel is full"
  | closed => "Notification channel is closed"

end PublishFault

/-- A queue with a fixed number of places. -/
structure Channel where
  capacity : Nat
  queue : List Envelope
  receiving : Bool
deriving DecidableEq

namespace Channel

/-- An empty channel with at least one place. -/
def make (capacity : Nat) : Channel :=
  ⟨max capacity 1, [], true⟩

/-- The channel after an event was published on it. -/
def publish (channel : Channel) (topic : String) (event : TransferEvent) :
    Except PublishFault Channel :=
  if !channel.receiving then .error .closed
  else if channel.capacity <= channel.queue.length then .error .full
  else .ok { channel with queue := channel.queue ++ [⟨topic, event.encode⟩] }

/-- The first envelope and the channel without it. -/
def receive? (channel : Channel) : Option (Envelope × Channel) :=
  match channel.queue with
  | [] => none
  | envelope :: rest => some (envelope, { channel with queue := rest })

/-- The channel after its reader is gone. -/
def stopReceiving (channel : Channel) : Channel :=
  { channel with queue := [], receiving := false }

end Channel

/--
Whoever sends emails. It accepts some of those handed to it, and which ones may depend
on the emails handed to it before.
-/
abbrev Mailer := List Email -> Email -> Bool

namespace Mailer

/-- The mailer that writes emails to the log; it wants an address with an at sign. -/
def log : Mailer :=
  fun _ email => email.recipient.toList.contains '@'

/-- The mailer that accepts nothing. -/
def broken : Mailer :=
  fun _ _ => false

/-- The emails it accepts of some that are handed to it in order, after earlier ones. -/
def accepted (mailer : Mailer) (earlier : List Email) : List Email -> List Email
  | [] => []
  | email :: rest =>
      if mailer earlier email then email :: mailer.accepted (earlier ++ [email]) rest
      else mailer.accepted (earlier ++ [email]) rest

end Mailer

/-- A reader of the channel that turns events of one topic into emails. -/
structure NotificationWorker where
  topic : String
  mailer : Mailer

/--
What there is after some envelopes were read: the emails that were sent for them, all that
were ever handed to the mailer, and the channel.
-/
structure Drained where
  sent : List Email
  handed : List Email
  channel : Channel

namespace NotificationWorker

/-- The email for an envelope, if it is of the worker's topic and can be read. -/
def emailFor? (worker : NotificationWorker) (envelope : Envelope) : Option Email :=
  if envelope.topic = worker.topic then
    match TransferEvent.decode envelope.payload with
    | .ok event => some (.ofTransfer event)
    | .error _ => none
  else none

/-- The emails for envelopes, in order. -/
def emails (worker : NotificationWorker) (envelopes : List Envelope) : List Email :=
  envelopes.filterMap worker.emailFor?

/--
Read up to a number of envelopes when some emails were handed to the mailer before.
-/
def drainAfter (worker : NotificationWorker) (handed : List Email) (most : Nat)
    (channel : Channel) : Drained :=
  let emails := worker.emails (channel.queue.take most)
  { sent := worker.mailer.accepted handed emails
    handed := handed ++ emails
    channel := { channel with queue := channel.queue.drop most } }

/-- Read up to a number of envelopes with a fresh mailer; the emails sent and the channel after. -/
def drain (worker : NotificationWorker) (most : Nat) (channel : Channel) :
    List Email × Channel :=
  let drained := worker.drainAfter [] most channel
  (drained.sent, drained.channel)

/-- Read all envelopes with a fresh mailer; the emails sent and the channel after. -/
def finish (worker : NotificationWorker) (channel : Channel) : List Email × Channel :=
  ((worker.drainAfter [] channel.queue.length channel).sent, channel.stopReceiving)

end NotificationWorker
end Giro
