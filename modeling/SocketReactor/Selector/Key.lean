import SocketReactor.Selector.Backend

/-!
# Selection keys

A key binds a descriptor to a selector. It keeps what the channel is interested in,
what the last poll found ready, whether it still counts, and whether the backend
watches its descriptor.
-/

namespace SocketReactor

structure Key where
  token : UInt64
  descriptor : Descriptor
  validOps : OpSet
  interest : OpSet
  ready : OpSet
  valid : Bool
  armed : Bool
  attachment : Option String
  deriving DecidableEq, Repr

namespace Key

def new (token : UInt64) (descriptor : Descriptor) (validOps interest : OpSet)
    (attachment : Option String) : Key :=
  ⟨token, descriptor, validOps, interest, .none, true, false, attachment⟩

def invalidate (key : Key) : Key := { key with valid := false, ready := .none }

/-- The fault of an interest set with operations that the channel never becomes ready for. -/
def checkInterest (validOps interest : OpSet) : Except Fault Unit :=
  if validOps.contains interest then .ok () else .error (.badInterest interest.bits validOps.bits)

/-- Brings what the backend watches in line with a set of operations. Gives the reply of
the host and the key afterwards. -/
def sync (backend : Backend) (key : Key) (ops : OpSet) : Program (Except Errno Unit × Key) :=
  let directions := Directions.ofOps ops
  if directions.isEmpty then
    if key.armed then do
      let reply ← backend.delete key.descriptor
      return (reply, { key with armed := false })
    else return (.ok (), key)
  else if key.armed then do
    let reply ← backend.modify key.descriptor key.token directions
    return (reply, key)
  else do
    match ← backend.add key.descriptor key.token directions with
    | .ok () => return (.ok (), { key with armed := true })
    | .error errno => return (.error errno, key)

/-- What one event makes a key ready for. A pending connection is reported alone, before
any writing. -/
def readiness (key : Key) (event : ReadyEvent) : OpSet :=
  let reading :=
    if event.readable || event.failed then key.interest ∩ (.reading ∪ .accepting) else .none
  let writing :=
    if event.writable || event.failed then
      if key.interest.connect then .connecting else key.interest ∩ .writing
    else .none
  reading ∪ writing

theorem checkInterest_eq_ok_iff (validOps interest : OpSet) :
    checkInterest validOps interest = .ok () ↔ validOps.contains interest = true := by
  rw [checkInterest]
  split <;> simp_all

/-- A key never becomes ready for more than it is interested in. -/
theorem contains_readiness (key : Key) (event : ReadyEvent) :
    key.interest.contains (key.readiness event) = true := by
  rw [OpSet.contains_iff]
  rw [readiness]
  generalize key.interest = interest
  obtain ⟨accept, connect, read, write⟩ := interest
  cases accept <;> cases connect <;> cases read <;> cases write <;>
    cases event.readable <;> cases event.writable <;> cases event.failed <;> decide

def truthText (value : Bool) : String := if value then "true" else "false"

/-- The fields of the key by name, with its descriptor as `shown` writes it. -/
def text (shown : Descriptor → String) (key : Key) : String :=
  "SelectionKey \x7b token: " ++ Numeral.decimal key.token.toNat ++
    ", fd: " ++ shown key.descriptor ++
    ", interest: " ++ key.interest.text ++ ", ready: " ++ key.ready.text ++
    ", valid: " ++ truthText key.valid ++ " \x7d"

end Key

end SocketReactor
