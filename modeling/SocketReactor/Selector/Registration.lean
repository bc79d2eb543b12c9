import SocketReactor.Selector.Basic

/-!
# Registering with a selector

A registration issues a key and makes the backend watch the descriptor. Every attempt
uses up a token, also one that the backend refuses. A change of interest is stored before
the backend is told, and stays stored if the backend refuses it.
-/

namespace SocketReactor.Selector

def register (selector : Selector) (descriptor : Descriptor) (validOps interest : OpSet)
    (attachment : Option String) : Program (Except Fault Nat × Selector) :=
  match (do Key.checkInterest validOps interest; selector.backend) with
  | .error fault => return (.error fault, selector)
  | .ok backend => do
      let serial := selector.issued
      let counted := { selector with issued := serial + 1 }
      let key := Key.new (UInt64.ofNat serial) descriptor validOps interest attachment
      match ← key.sync backend interest with
      | (.error errno, _) => return (.error (.backendFailed errno "epoll_ctl"), counted)
      | (.ok (), synced) =>
          return (.ok serial,
            { counted with
              keys := counted.keys.insert serial synced
              registry := counted.registry.insert key.token serial })

/-- The fault of changing a key that no longer counts. -/
def cancelled : Fault := .wrongState "set_interest" "cancelled"

def changeable (selector : Selector) (key : Key) (interest : OpSet) : Except Fault Backend := do
  Key.checkInterest key.validOps interest
  if !key.valid then throw cancelled
  let backend ← selector.backend
  if (selector.registry.get? key.token).isNone then throw cancelled
  return backend

def setInterest (selector : Selector) (serial : Nat) (interest : OpSet) :
    Program (Except Fault Unit × Selector) :=
  match selector.key? serial with
  | none => return (.error cancelled, selector)
  | some key => match selector.changeable key interest with
    | .error fault => return (.error fault, selector)
    | .ok backend => do
        let (reply, synced) ← { key with interest := interest }.sync backend interest
        let after := selector.setKey serial synced
        match reply with
        | .ok () => return (.ok (), after)
        | .error errno => return (.error (.backendFailed errno "epoll_ctl"), after)

/-- Takes a key out of the registry. A key that no longer counts stays as it is. -/
def cancel (selector : Selector) (serial : Nat) : Program Selector :=
  match selector.key? serial with
  | none => return selector
  | some key =>
      if !key.valid then return selector
      else
        let present := (selector.registry.get? key.token).isSome
        let after := { selector with registry := selector.registry.erase key.token }
        if present && key.armed then do
          match selector.backend with
          | .ok backend => do
              let _ ← backend.delete key.descriptor
          | .error _ => pure ()
          return after.setKey serial { key.invalidate with armed := false }
        else return after.setKey serial key.invalidate

/-- Replaces the attachment of a key; gives the one before. -/
def attach (selector : Selector) (serial : Nat) (attachment : Option String) :
    Option String × Selector :=
  ((selector.key? serial).bind Key.attachment,
    selector.updateKey serial fun key => { key with attachment := attachment })

end SocketReactor.Selector
