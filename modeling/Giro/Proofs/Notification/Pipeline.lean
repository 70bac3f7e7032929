import Giro.Notification.Outlet
import Giro.Proofs.Decimal.Written
import Giro.Proofs.Json.Texts

/-!
# From publication to email

An event comes out of its JSON text as it went in, whatever its texts and its amount are.
So nothing is lost between publication and email but what the topic and the mailer turn
away: a channel with a worker at its end is a book of the events that were accepted, and a
mark in it up to which they were read.
-/

namespace Giro
namespace TransferEvent

/-- A text of an event, under its name. -/
def textField (name value : String) : Json.Field :=
  ⟨name, .text, value, .text value, fun _ => rfl⟩

/-- The amount of an event, under its name. -/
def decimalField (name : String) (number : Decimal) : Json.Field where
  name := name
  kind := .decimal
  written := number.toText
  datum := .decimal number
  read _ := by rw [Json.readDatum, Decimal.ofAnyText?_toText]; rfl

/-- An event is read back from its JSON text. -/
theorem decode_encode (event : TransferEvent) : decode event.encode = .ok event := by
  have read := Json.Field.readRecord_render (textField "recipient_address" event.recipientAddress)
    [textField "recipient_name" event.recipientName, decimalField "amount" event.amount,
      textField "receiver_iban" event.receiver, textField "reference_code" event.reference]
    (by decide : ["recipient_address", "recipient_name", "amount", "receiver_iban",
      "reference_code"].Nodup)
  have whole : Json.readRecord layout (Json.Token.ofText event.encode) =
      .ok [.text event.recipientAddress, .text event.recipientName, .decimal event.amount,
        .text event.receiver, .text event.reference] := read
  rw [decode, whole]

end TransferEvent

namespace Delivery

/-- The event as it travels on the channel. -/
def envelope (delivery : Delivery) : Envelope :=
  ⟨delivery.topic, delivery.event.encode⟩

/-- The emails that events of a topic call for, in order. -/
def letters (topic : String) (deliveries : List Delivery) : List Email :=
  (deliveries.filter (fun delivery => delivery.topic = topic)).map
    (fun delivery => .ofTransfer delivery.event)

theorem letters_append (topic : String) (front back : List Delivery) :
    letters topic (front ++ back) = letters topic front ++ letters topic back := by
  rw [letters, List.filter_append, List.map_append]
  rfl

end Delivery

/-- A worker makes of envelopes what the original events call for. -/
theorem NotificationWorker.emails_envelopes
    (worker : NotificationWorker)
    (deliveries : List Delivery) :
    worker.emails (deliveries.map Delivery.envelope) =
      Delivery.letters worker.topic deliveries := by
  induction deliveries with
  | nil => rfl
  | cons delivery others ih =>
      rw [emails, List.map_cons, List.filterMap_cons, ← emails, ih, emailFor?, Delivery.envelope,
        TransferEvent.decode_encode, Delivery.letters, Delivery.letters, List.filter_cons]
      by_cases same : delivery.topic = worker.topic
      · simp [same]
      · simp [same]

/-- A channel with a worker at its end, and the emails handed to the worker's mailer so far. -/
structure Pipeline where
  worker : NotificationWorker
  channel : Channel
  handed : List Email

namespace Pipeline

/-- What can be done with a pipeline. -/
inductive Step
  | publish (topic : String) (event : TransferEvent)
  | drain (most : Nat)

/-- What comes back of a step: for reading, the number of emails that the mailer accepted. -/
inductive Reply
  | published
  | refused (fault : PublishFault)
  | sent (count : Nat)
deriving DecidableEq

/-- The reply to a step, and the pipeline after it. -/
def step (pipeline : Pipeline) : Step -> Reply × Pipeline
  | .publish topic event =>
      match pipeline.channel.publish topic event with
      | .ok channel => (.published, { pipeline with channel := channel })
      | .error fault => (.refused fault, pipeline)
  | .drain most =>
      let drained := pipeline.worker.drainAfter pipeline.handed most pipeline.channel
      (.sent drained.sent.length,
        { pipeline with channel := drained.channel, handed := drained.handed })

/-- The steps with their replies, and the pipeline after them. -/
def run (pipeline : Pipeline) : List Step -> List (Step × Reply) × Pipeline
  | [] => ([], pipeline)
  | step :: rest =>
      let (reply, next) := pipeline.step step
      let (history, last) := next.run rest
      ((step, reply) :: history, last)

/-- A pipeline with an empty channel. -/
def start (worker : NotificationWorker) (capacity : Nat) : Pipeline :=
  ⟨worker, .make capacity, []⟩

/-- The events accepted for publication, and how many of them were read. -/
structure Book where
  accepted : List Delivery
  read : Nat

namespace Book

/-- The events that were accepted and not yet read. -/
def unread (book : Book) : List Delivery :=
  book.accepted.drop book.read

/--
The book after a step with its reply: an event is accepted if it was not refused, and reading
goes on to as many events as are asked for, of any topic, or to the last one.
-/
def note (book : Book) : Step × Reply -> Book
  | (.publish topic event, .published) =>
      { book with accepted := book.accepted ++ [⟨topic, event⟩] }
  | (.publish _ _, _) => book
  | (.drain most, _) => { book with read := book.read + min most book.unread.length }

/-- The book of some steps and their replies, on an empty channel. -/
def ofHistory (history : List (Step × Reply)) : Book :=
  history.foldl note ⟨[], 0⟩

end Book

/-- A pipeline is what its book says. -/
structure Keeps (capacity : Nat) (worker : NotificationWorker) (book : Book)
    (pipeline : Pipeline) : Prop where
  sameWorker : pipeline.worker = worker
  isReceiving : pipeline.channel.receiving = true
  places : pipeline.channel.capacity = max 1 capacity
  queue : pipeline.channel.queue = book.unread.map Delivery.envelope
  withinPlaces : book.unread.length <= max 1 capacity
  withinBook : book.read <= book.accepted.length
  handed : pipeline.handed = Delivery.letters worker.topic (book.accepted.take book.read)

section

variable
  {capacity : Nat}
  {worker : NotificationWorker}
  {book : Book}
  {pipeline : Pipeline}

theorem keeps_start (worker : NotificationWorker) (capacity : Nat) :
    Keeps capacity worker ⟨[], 0⟩ (start worker capacity) where
  sameWorker := rfl
  isReceiving := rfl
  places := max_comm ..
  queue := rfl
  withinPlaces := Nat.zero_le _
  withinBook := Nat.le_refl _
  handed := rfl

/-- An event is refused if the channel is full of unread ones, and is accepted otherwise. -/
theorem Keeps.publish
    (keeps : Keeps capacity worker book pipeline)
    (topic : String)
    (event : TransferEvent) :
    pipeline.channel.publish topic event =
      if book.unread.length = max 1 capacity then .error .full
      else
        .ok
          { pipeline.channel with
            queue := pipeline.channel.queue ++ [Delivery.envelope ⟨topic, event⟩] } := by
  have notClosed : ¬ (!pipeline.channel.receiving) = true := by
    rw [keeps.isReceiving]
    decide
  have isFull : pipeline.channel.capacity <= pipeline.channel.queue.length ↔
      book.unread.length = max 1 capacity := by
    have within := keeps.withinPlaces
    rw [keeps.places, keeps.queue, List.length_map]
    omega
  rw [Channel.publish, if_neg notClosed]
  simp only [isFull]
  rfl

/-- The reply to a publication says which of the two it was. -/
theorem Keeps.reply_publish
    (keeps : Keeps capacity worker book pipeline)
    (topic : String)
    (event : TransferEvent) :
    (pipeline.step (.publish topic event)).1 =
      if book.unread.length = max 1 capacity then .refused .full else .published := by
  rw [step, keeps.publish]
  by_cases full : book.unread.length = max 1 capacity
  · rw [if_pos full, if_pos full]
  · rw [if_neg full, if_neg full]

/-- As many events as are asked for are read, or all there are. -/
theorem take_unread (book : Book) (most : Nat) :
    book.unread.take most = book.unread.take (min most book.unread.length) :=
  List.take_eq_take_iff.mpr (by omega)

theorem drop_unread (book : Book) (most : Nat) :
    book.unread.drop most = book.unread.drop (min most book.unread.length) := by
  rcases Nat.le_total most book.unread.length with few | many
  · rw [min_eq_left few]
  · rw [min_eq_right many, List.drop_length, List.drop_eq_nil_of_le many]

/-- The mailer is handed what the events call for that are read. -/
theorem Keeps.drain (keeps : Keeps capacity worker book pipeline) (most : Nat) :
    pipeline.worker.drainAfter pipeline.handed most pipeline.channel =
      { sent :=
          worker.mailer.accepted pipeline.handed
            (Delivery.letters worker.topic
              (book.unread.take (min most book.unread.length)))
        handed :=
          pipeline.handed ++
            Delivery.letters worker.topic (book.unread.take (min most book.unread.length))
        channel :=
          { pipeline.channel with
            queue :=
              (book.unread.drop (min most book.unread.length)).map Delivery.envelope } } := by
  rw [NotificationWorker.drainAfter, keeps.sameWorker, keeps.queue, ← List.map_take,
    ← List.map_drop, NotificationWorker.emails_envelopes, take_unread, drop_unread]

theorem Book.unread_read (book : Book) (count : Nat) :
    Book.unread ⟨book.accepted, book.read + count⟩ = book.unread.drop count :=
  List.drop_drop.symm

theorem Book.unread_accept (book : Book) (within : book.read <= book.accepted.length)
    (delivery : Delivery) :
    Book.unread ⟨book.accepted ++ [delivery], book.read⟩ = book.unread ++ [delivery] :=
  List.drop_append_of_le_length within

/-- A step and its entry in the book go together. -/
theorem Keeps.step
    (keeps : Keeps capacity worker book pipeline)
    (step : Step) :
    Keeps capacity worker (book.note (step, (pipeline.step step).1)) (pipeline.step step).2 := by
  cases step with
  | publish topic event =>
      have published := keeps.publish topic event
      rw [Pipeline.step, published]
      by_cases full : book.unread.length = max 1 capacity
      · rw [if_pos full]
        exact keeps
      · have within := keeps.withinPlaces
        have unread := book.unread_accept keeps.withinBook ⟨topic, event⟩
        rw [if_neg full]
        exact
          { keeps with
            queue := by
              rw [Book.note, unread, List.map_append, ← keeps.queue]
              rfl
            withinPlaces := by
              rw [Book.note, unread, List.length_append, List.length_singleton]
              omega
            withinBook := by
              rw [Book.note, List.length_append]
              exact Nat.le_add_right_of_le keeps.withinBook
            handed := by
              rw [Book.note, List.take_append_of_le_length keeps.withinBook]
              exact keeps.handed }
  | drain most =>
      have within := keeps.withinPlaces
      have inside := keeps.withinBook
      have length : book.unread.length = book.accepted.length - book.read := List.length_drop
      rw [Pipeline.step, keeps.drain]
      exact
        { keeps with
          queue := by rw [Book.note, Book.unread_read]
          withinPlaces := by
            rw [Book.note, Book.unread_read, List.length_drop]
            omega
          withinBook := by
            rw [Book.note]
            dsimp only
            omega
          handed := by
            rw [Book.note, List.take_add, Delivery.letters_append, ← keeps.handed]
            rfl }

/-- However many steps there are, the pipeline is what the book of them says. -/
theorem Keeps.run (keeps : Keeps capacity worker book pipeline) (steps : List Step) :
    Keeps capacity worker ((pipeline.run steps).1.foldl Book.note book)
      (pipeline.run steps).2 := by
  induction steps generalizing book pipeline with
  | nil => exact keeps
  | cons step rest ih => exact ih (keeps.step step)

end

/--
After any steps on an empty channel the channel holds the events that were accepted and not
read, and the mailer was handed the emails for those of the worker's topic that were read,
each once and in the order of publication. The next event is refused exactly if the channel
is full, with that as the reason. The next reading takes as many events as are asked for,
of any topic, or all there are, and counts the emails among theirs that the mailer accepts.
-/
theorem delivers_each_once (capacity : Nat) (worker : NotificationWorker) (steps : List Step) :
    let (history, pipeline) := (start worker capacity).run steps
    let book := Book.ofHistory history
    pipeline.channel.queue = book.unread.map Delivery.envelope ∧
      pipeline.handed = Delivery.letters worker.topic (book.accepted.take book.read) ∧
      (∀ topic event,
        ((pipeline.step (.publish topic event)).1 = .refused .full ↔
            book.unread.length = max 1 capacity) ∧
          ((pipeline.step (.publish topic event)).1 = .published ↔
            book.unread.length ≠ max 1 capacity)) ∧
      ∀ most,
        let (reply, next) := pipeline.step (.drain most)
        let count := min most book.unread.length
        let letters := Delivery.letters worker.topic (book.unread.take count)
        next.channel.queue = (book.unread.drop count).map Delivery.envelope ∧
          next.handed = pipeline.handed ++ letters ∧
          reply = .sent (worker.mailer.accepted pipeline.handed letters).length := by
  have keeps : Keeps capacity worker (.ofHistory ((start worker capacity).run steps).1)
      ((start worker capacity).run steps).2 := (keeps_start worker capacity).run steps
  refine ⟨keeps.queue, keeps.handed, fun topic event => ?_, fun most => ?_⟩
  · rw [keeps.reply_publish]
    split_ifs with full
    · simp [full]
    · simp [full]
  · have drained := keeps.drain most
    refine ⟨?_, ?_, ?_⟩
    · exact congrArg (fun drained => drained.channel.queue) drained
    · exact congrArg Drained.handed drained
    · exact congrArg (fun drained => Reply.sent drained.sent.length) drained

end Pipeline
end Giro
