import Giro.Notification.Channel

/-!
# Notifier

Publishing the events of transfers. Whoever dispatches an event never waits for
its publication and never learns of its failure.
-/

namespace Giro

/-- An event published under a topic. -/
structure Delivery where
  topic : String
  event : TransferEvent
deriving DecidableEq

/-- Where events are published. -/
inductive Outlet
  | records (delivered : List Delivery)
  | unreachable
  | queue (channel : Channel)
deriving DecidableEq

namespace Outlet

/-- The outlet after an event was published on it, whether or not it got through. -/
def publish (topic : String) (event : TransferEvent) : Outlet -> Outlet
  | records delivered => records (delivered ++ [⟨topic, event⟩])
  | unreachable => unreachable
  | queue channel =>
      match channel.publish topic event with
      | .ok channel => queue channel
      | .error _ => queue channel

end Outlet

/-- An outlet and the topic under which events go to it. -/
structure Notifier where
  topic : String
  outlet : Outlet
deriving DecidableEq

namespace Notifier

/-- The notifier after an event was dispatched. -/
def dispatch (notifier : Notifier) (event : TransferEvent) : Notifier :=
  { notifier with outlet := notifier.outlet.publish notifier.topic event }

/-- The events that got through and are on record. -/
def delivered (notifier : Notifier) : List Delivery :=
  match notifier.outlet with
  | .records delivered => delivered
  | _ => []

/-- The notifier with its record of events cleared. -/
def clear (notifier : Notifier) : Notifier :=
  match notifier.outlet with
  | .records _ => { notifier with outlet := .records [] }
  | _ => notifier

end Notifier
end Giro
