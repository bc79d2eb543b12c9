import SocketReactor.Session.Tasks

/-!
# Running sessions

What each step does. A session runs step by step on a machine; a step that would wait
forever changes nothing.
-/

namespace SocketReactor.Session

def Step.task : Step → Task Value
  | make name recipe => Task.make name recipe
  | makeServer name builder host port => do
      Task.make name (.server builder host (← Task.port port))
  | makeServerAt name builder place => do
      Task.make name (.serverAt builder (← Task.place place))
  | makeConnected name builder host port => do
      Task.make name (.connected builder host (← Task.port port))
  | makeDatagram name builder host port => do
      Task.make name (.datagram builder host (← Task.port port))
  | wrap socket name => do
      Task.ofReactor fun reactor => reactor.wrap socket name
      Task.made name
  | take socket name => do
      Task.ofReactor fun reactor => reactor.take socket name
      Task.made name
  | adopt socket source => do
      Task.ofReactor fun reactor => reactor.adopt socket source
      return .nothing
  | accept socket name => Task.accept socket name
  | drop socket => do
      Task.ofReactor fun reactor => reactor.drop socket
      return .nothing
  | ask socket command => Task.ask socket command
  | bind socket host port => do
      let _ ← Task.owner socket
      Task.ask socket (.bind host (← Task.port port))
  | bindAt socket place => do
      let _ ← Task.owner socket
      Task.ask socket (.bindEndpoint (← Task.place place))
  | connect socket host port => do
      let _ ← Task.owner socket
      Task.ask socket (.connect host (← Task.port port))
  | connectAt socket place => do
      let _ ← Task.owner socket
      Task.ask socket (.connectEndpoint (← Task.place place))
  | sendTo socket data place => do
      let _ ← Task.owner socket
      Task.ask socket (.sendTo data (← Task.place place))
  | holds socket option size => do
      match ← Task.reply socket (.readOption (.size option)) with
      | .quantity value => return .truth (size ≤ value)
      | _ => return .nothing
  | savePort socket name => do
      let owner ← Task.owner socket
      match ← Task.reply socket .localPort with
      | .port port => do
          modify fun session => { session with savedPorts := session.savedPorts.insert name port }
          return .port (← Task.label owner.socket port)
      | _ => return .nothing
  | showSocket socket => do
      let socket := (← Task.owner socket).socket
      return .socket (socket.protocol?.map Protocol.text) socket.isValid
  | closeBehind socket => do
      let owner ← Task.owner socket
      match ← Task.ofProgram (Program.request (.close owner.socket.descriptor)) with
      | .ok () => return .number 0
      | .error errno => throw (.fault (.closeFailed errno))
  | fill socket => Task.fill socket (List.replicate Task.blockSize Task.fillOctet) Task.manyBlocks
  | drain socket => Task.drain socket 0 Task.manyBlocks
  | register socket selector interest name attachment => do
      let _ ← Task.owner socket
      let selector ← Task.selector selector
      let id ← Task.ofReactor fun reactor => reactor.register socket selector interest attachment
      Task.nameKey name id
  | showChannel socket => do
      let owner ← Task.owner socket
      let session ← get
      let valid := do
        let id ← session.reactor.validKey? owner
        let key ← session.reactor.key? id
        return (key, session.nameOf? id)
      return .channel ⟨(owner.channel?.map (·.use.validOps)).getD .none, valid⟩
  | newSelector name selection => do
      let (id, after) := (← get).reactor.addSelector selection
      modify fun session => { session with reactor := after }
      Task.nameSelector name id
      return .nothing
  | openSelector selector => do
      let id ← Task.selector selector
      Task.ofFaulty fun reactor => reactor.onSelector id (.error .notOpen) Selector.openBackend
      return .nothing
  | closeSelector selector => do
      let id ← Task.selector selector
      Task.onReactor fun reactor => reactor.stepSelector id Selector.close
      return .nothing
  | cloneSelector selector name => do
      let id ← Task.selector selector
      Task.nameSelector name id
      return .nothing
  | dropSelector selector => do
      let id ← Task.selector selector
      modify fun session =>
        { session with selectorNames := session.selectorNames.erase selector }
      Task.release id
      return .nothing
  | wakeup selector => do
      let id ← Task.selector selector
      Task.ofFaulty fun reactor => reactor.onSelector id (.error .notOpen) Selector.wakeup
      return .nothing
  | isOpen selector => do
      let id ← Task.selector selector
      return .truth (← Task.selectorAt id).isOpen
  | showSelector selector => do
      let id ← Task.selector selector
      return .text (← Task.selectorAt id).text
  | keys selector => do
      let id ← Task.selector selector
      let selector ← Task.selectorAt id
      return .names (← Task.names id (Task.byToken selector selector.validKeys))
  | later selector alarm milliseconds => do
      let id ← Task.selector selector
      modify fun session =>
        { session with
          laters := insertLater ⟨milliseconds.toNat * 1000, id, alarm⟩ session.laters }
      return .nothing
  | poll selector limit countOnly => do
      let id ← Task.selector selector
      Task.pollValue id limit countOnly
  | pollRepeatedly selector times => do
      let id ← Task.selector selector
      let found ← Task.pollRepeatedly id [] times
      return .names (← Task.names id (Task.byToken (← Task.selectorAt id) found))
  | registerBare selector validOps interest name attachment => do
      let id ← Task.selector selector
      let serial ← Task.ofFaulty fun reactor => reactor.onSelector id (.error .notOpen)
        fun selector => selector.register .absent validOps interest attachment
      Task.nameKey name ⟨id, serial⟩
  | showKey name => do
      let (id, key) ← Task.keyAt name
      let selector ← Task.selectorAt id.selector
      return .key ⟨key, if selector.isHeld then some selector.isOpen else none⟩
  | sameKey first second => do
      let first ← Task.key first
      let second ← Task.key second
      return .truth (first = second)
  | setInterest name interest => do
      let id ← Task.key name
      Task.ofFaulty fun reactor => reactor.setInterest id interest
      return .ops (← Task.keyAt name).2.interest
  | cancel name => do
      let id ← Task.key name
      Task.onReactor fun reactor => reactor.cancel id
      return .truth (← Task.keyAt name).2.valid
  | attach name attachment => do
      let id ← Task.key name
      let (previous, after) := (← get).reactor.attach id attachment
      modify fun session => { session with reactor := after }
      return .attachment previous

def shownRefusal (session : Session) : Refusal → Refusal
  | .failed (.fault fault) => .fault (session.seenPorts.hideIn fault)
  | refusal => refusal

def advance (session : Session) (step : Step) : Program (Answer × Session) := do
  let (_, paused) ← (Task.elapse step.pause).runOn session
  let (result, after) ← step.task.runOn paused
  let outcome := match result with
    | .ok value => Outcome.value value
    | .error refusal => .refused (after.shownRefusal refusal)
  return (⟨outcome, step.socket?.bind after.view?⟩, after)

def answers {σ : Type} (machine : Program.Machine σ) : Session → σ → List Step → List Answer
  | _, _, [] => []
  | session, host, step :: rest =>
      match (session.advance step).run machine host with
      | some ((answer, after), next) => answer :: answers machine after next rest
      | none =>
          ⟨.blocked, step.socket?.bind session.view?⟩ :: answers machine session host rest

end SocketReactor.Session
