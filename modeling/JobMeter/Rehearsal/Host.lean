import JobMeter.Rehearsal.VirtualTime
import JobMeter.Service.Assembly

/-!
# A stage as a host

On a stage the whole service can run: measurements go into the store of the stage, and requests get
scripted replies.
-/

namespace JobMeter.Rehearsal

/-- The stage as a host of the service. -/
def Stage.host : Service.Host (Stage Float) where
  now s := s.clock
  store s := s.store
  setStore store s := { s with store }
  transport := Stage.transport
  note n s := { s with notices := n :: s.notices }
  stopped s := s.stopped
  requestStop := Stage.requestStop

end JobMeter.Rehearsal
