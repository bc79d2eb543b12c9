import SocketReactor.Proofs.Reactor.Balance
import SocketReactor.Proofs.Reactor.Owners

/-!
# Custody of the descriptors of a reactor

Who holds the open descriptors after a run, what the calls of a socket name and close, and
what becomes of a descriptor when an operation fails.
-/

namespace SocketReactor

variable {base : Descriptor → Prop} {log later : Log} {reactor after : Reactor}

namespace Log

/-- The open descriptors are those from before but one that is gone, if any. -/
def Loses (log : Log) (gone : Option Descriptor) (later : Log) : Prop :=
  ∀ descriptor, descriptor ∈ later.opened ↔ descriptor ∈ log.opened ∧ gone ≠ some descriptor

namespace Balanced

variable {ι : Type} {held? other? : ι → Option Descriptor}

theorem loses_none (before : log.Balanced base held?) (balanced : later.Balanced base other?)
    (same : other? = held?) : log.Loses none later := by
  intro descriptor
  rw [balanced.held, before.held, same]
  exact ⟨fun held => ⟨held, nofun⟩, And.left⟩

/-- What one holder had is gone. -/
theorem loses_update [DecidableEq ι] {holder : ι} (before : log.Balanced base held?)
    (balanced : later.Balanced base other?) (emptied : other? = Function.update held? holder none) :
    log.Loses (held? holder) later := by
  intro descriptor
  rw [balanced.held, before.held, emptied]
  constructor
  · rintro ⟨other, has⟩
    by_cases here : other = holder
    · rw [here, Function.update_self] at has
      cases has
    · rw [Function.update_of_ne here] at has
      refine ⟨⟨other, has⟩, fun gone => ?_⟩
      exact here (before.apart other holder descriptor has gone)
  · rintro ⟨⟨other, has⟩, kept⟩
    refine ⟨other, ?_⟩
    rw [Function.update_of_ne, has]
    rintro rfl
    exact kept has

end Balanced

end Log

/-! ## Calls of sockets -/

theorem Socket.keepsTo_perform (socket : Socket) (command : Command) :
    (socket.perform command).KeepsTo base [] socket.owned?.toList := by
  have tends : (socket.perform command).Tends (Call.Carefully []) _ _ :=
    Socket.tends_perform command socket.fits_new
  rw [← socket.fits_new]
  exact tends.keepsTo

theorem Socket.keepsTo_discard (socket : Socket) :
    socket.discard.KeepsTo base [] socket.owned?.toList := by
  have tends : socket.discard.Tends (Call.Carefully []) _ _ := Socket.tends_discard socket.fits_new
  rw [← socket.fits_new]
  exact tends.keepsTo

theorem Channel.keepsTo_ofSocket (use : Use) (socket : Socket) :
    (Channel.ofSocket use socket).run.KeepsTo base [] socket.owned?.toList := by
  have tends : (Channel.ofSocket use socket).Tends (Call.Carefully []) _ _ _ :=
    Channel.tends_ofSocket use socket.fits_new
  rw [← socket.fits_new]
  exact Program.Tends.keepsTo tends

theorem Owner.keepsTo_accept (owner : Owner) :
    owner.accept.run.KeepsTo base owner.socket.owned?.toList [] :=
  Program.Tends.keepsTo owner.born_accept

theorem Recipe.keepsTo_make (recipe : Recipe) : recipe.make.run.KeepsTo base [] [] := by
  have tends : recipe.make.Tends (Call.Carefully []) Owner.Born (· = []) [] := recipe.born_make
  exact Program.Tends.keepsTo tends

/-! ## Failures -/

theorem Socket.eq_of_runs_create {σ : Type} {answers : Answering σ} {socket moved : Socket}
    {protocol : Protocol} {failure : Failure} {state final : σ}
    (run : (socket.perform (.create protocol)).Runs answers state (.error failure, moved) final) :
    moved = socket := by
  rw [perform_eq, respond, create_eq] at run
  cases socket with
  | live parts =>
      obtain ⟨same, -⟩ := run
      cases same
      rfl
  | closed former =>
      obtain ⟨⟨outcome, settled⟩, between, opened, same, -⟩ := Program.runs_bind.mp run
      obtain ⟨made, middle, -, rest⟩ := Program.runs_bind.mp opened
      cases made with
      | ok value =>
          obtain ⟨given, -⟩ := rest
          cases given
          cases same
      | error fault =>
          obtain ⟨given, -⟩ := rest
          cases given
          cases same
          rfl

/-- A mistake makes no call. -/
theorem Socket.host_of_runs_create {σ : Type} {answers : Answering σ} {socket moved : Socket}
    {protocol : Protocol} {misuse : Misuse} {state final : σ}
    (run : (socket.perform (.create protocol)).Runs answers state
      (.error (.misuse misuse), moved) final) : final = state := by
  rw [perform_eq, respond, create_eq] at run
  cases socket with
  | live parts => exact run.2
  | closed former =>
      obtain ⟨⟨outcome, settled⟩, between, opened, same, -⟩ := Program.runs_bind.mp run
      cases outcome <;> cases same

/-- The operations that fail, and the descriptor that is given up with them: nothing by those
that were to get one, and what was to be moved by the others. -/
inductive Operation.Forfeits (reactor : Reactor) :
    (operation : Operation) → operation.Result → Option Descriptor → Prop where
  | make (name : String) (recipe : Recipe) (refusal : Refusal) :
      Forfeits reactor (.make name recipe) (.error refusal) none
  | accept (listener : String) (access : Access) (name : String)
      {outcome : Except Refusal (Accepted Unit)}
      (missed : ∀ peer, outcome ≠ .ok (.accepted () peer)) :
      Forfeits reactor (.accept listener access name) outcome none
  | create (name : String) (access : Access) (protocol : Protocol) (refusal : Refusal) :
      Forfeits reactor (.ask name access (.create protocol)) (.error refusal) none
  | openSelector (id : Nat) (fault : Fault) :
      Forfeits reactor (.openSelector id) (.error fault) none
  | wrap {source : String} {socket : Socket}
      (named : reactor.owner? source = some (.typed .stream socket)) (name : String)
      (refusal : Refusal) :
      Forfeits reactor (.wrap source name) (.error refusal) socket.owned?
  | adopt {source : String} {socket : Socket}
      (named : reactor.owner? source = some (.handle socket)) (name : String)
      (refusal : Refusal) :
      Forfeits reactor (.adopt name source) (.error refusal) socket.owned?

namespace Scene

variable {σ : Type} {host final : σ} {name : String}

theorem held?_host (loose : Option Owner) (host final : σ) :
    (⟨reactor, loose, final⟩ : Scene σ).held? = (⟨reactor, loose, host⟩ : Scene σ).held? := by
  funext holder
  rcases holder with (place | place) | ⟨id, part⟩ <;> rfl

/-- Owners with the same socket hold the same. -/
theorem held?_of_socket? (host final : σ) (same : after.socket? name = reactor.socket? name) :
    (⟨after, none, final⟩ : Scene σ).held? (.owner (some name)) =
      (⟨reactor, none, host⟩ : Scene σ).held? (.owner (some name)) := by
  have held : ∀ (reactor : Reactor) (host : σ), (⟨reactor, none, host⟩ : Scene σ).held?
      (.owner (some name)) = (reactor.socket? name).bind Socket.owned? := by
    intro reactor host
    rw [Reactor.socket?, Option.bind_map]
    rfl
  rw [held, held, same]

/-- Under a name that is taken away nothing is held. -/
theorem held?_without (host final : σ) (name : String) :
    (⟨reactor.without name, none, final⟩ : Scene σ).held? =
      Function.update (⟨reactor, none, host⟩ : Scene σ).held? (.owner (some name)) none := by
  have gone : (⟨reactor.without name, none, final⟩ : Scene σ).held? (.owner (some name)) =
      none := by
    rw [held?, owner?, Reactor.owner?_without, if_pos rfl]
    rfl
  rw [← gone]
  refine held?_eq_update rfl ?_
  intro other apart
  cases other with
  | none => rfl
  | some other =>
      refine (reactor.owner?_without name other).trans (if_neg ?_)
      rintro rfl
      exact apart rfl

end Scene

namespace Reactor

variable {σ : Type} {answers : Answering σ} {host final : σ} {name source : String}

theorem eq_of_make {recipe : Recipe} {refusal : Refusal}
    (run : (reactor.make name recipe).Runs answers host (.error refusal, after) final) :
    after = reactor := by
  cases made_of_runs run
  rfl

theorem eq_of_accept {listener : String} {access : Access}
    {outcome : Except Refusal (Accepted Unit)}
    (missed : ∀ peer, outcome ≠ .ok (.accepted () peer))
    (run : (reactor.accept listener access name).Runs answers host (outcome, after) final) :
    after = reactor := by
  cases received_of_runs run with
  | refused | missed => rfl
  | @placed owner lent connection peer later between after named lends taken placing =>
      exact absurd rfl (missed peer)

/-- Creating that fails leaves every socket as it is; if it is a mistake, no call is made. -/
theorem socket?_of_create {access : Access} {protocol : Protocol} {refusal : Refusal}
    (run : (reactor.ask name access (.create protocol)).Runs answers host (.error refusal, after)
      final) :
    after.selectors = reactor.selectors ∧ (∀ other, after.socket? other = reactor.socket? other) ∧
      ((∃ misuse, refusal = .failed (.misuse misuse)) → final = host) := by
  generalize outcome : Except.error refusal = result at run
  cases asked_of_runs run with
  | refused ungranted plain => exact ⟨rfl, fun _ => rfl, fun _ => rfl⟩
  | @performed command owner reply moved after named granted other performed =>
      cases reply with
      | ok reply => cases outcome
      | error failure =>
          cases outcome
          obtain rfl : moved = owner.socket := Socket.eq_of_runs_create performed
          refine ⟨rfl, fun other => ?_, ?_⟩
          · rw [socket?, owner?_setSocket, socket?]
            split
            · rename_i here
              rw [here, named]
              exact congrArg some (owner.socket_withSocket owner.socket)
            · rfl
          · rintro ⟨misuse, same⟩
            cases same
            exact Socket.host_of_runs_create performed

/-- A stream that cannot be made a channel is gone. -/
theorem eq_of_wrap {socket : Socket} {refusal : Refusal}
    (named : reactor.owner? source = some (.typed .stream socket))
    (run : (reactor.wrap source name).Runs answers host (.error refusal, after) final) :
    after = reactor.without source := by
  cases wrapped_of_runs run with
  | refused absent => exact absurd named (absent socket)
  | failed named made => rfl

theorem eq_of_openBackend {selector settled : Selector} {fault : Fault}
    (run : selector.openBackend.Runs answers host (.error fault, settled) final) :
    settled = selector := by
  unfold Selector.openBackend at run
  split at run
  · obtain ⟨same, -⟩ := run
    cases same
  · obtain ⟨outcome, between, opened, rest⟩ := Program.runs_bind.mp run
    cases outcome <;>
    · obtain ⟨same, -⟩ := rest
      cases same
      try rfl
  · obtain ⟨same, -⟩ := run
    cases same
    rfl

theorem held?_of_openSelector {id : Nat} {fault : Fault}
    (run : (reactor.onSelector id (.error .notOpen) Selector.openBackend).Runs answers host
      (.error fault, after) final) :
    (⟨after, none, final⟩ : Scene σ).held? = (⟨reactor, none, host⟩ : Scene σ).held? := by
  unfold onSelector at run
  split at run
  · obtain ⟨same, rfl⟩ := run
    cases same
    rfl
  · rename_i selector known
    obtain ⟨⟨outcome, settled⟩, between, opened, same, rfl⟩ := Program.runs_bind.mp run
    cases same
    obtain rfl := eq_of_openBackend opened
    rw [Scene.held?_setSelector host]
    funext holder
    cases holder with
    | owner place => rfl
    | backend other part =>
        rw [equip]
        split
        · rename_i here
          rw [here, Scene.held?_backend none host known]
        · rfl

end Reactor

/-- What fails leaves no descriptor behind. -/
theorem Operation.Forfeits.loses {operation : Operation} {result : operation.Result}
    {gone : Option Descriptor} (forfeits : operation.Forfeits reactor result gone)
    (before : (⟨reactor, none, log⟩ : Scene Log).Balanced base)
    (balanced : (⟨after, none, later⟩ : Scene Log).Balanced base)
    (run : (operation.perform reactor).Runs (Log.Answers base) log (result, after) later) :
    log.Loses gone later := by
  cases forfeits with
  | make name recipe refusal =>
      obtain rfl := Reactor.eq_of_make run
      exact Log.Balanced.loses_none before balanced (Scene.held?_host none log later)
  | accept listener access name missed =>
      obtain rfl := Reactor.eq_of_accept missed run
      exact Log.Balanced.loses_none before balanced (Scene.held?_host none log later)
  | create name access protocol refusal =>
      obtain ⟨selectors, sockets, -⟩ := Reactor.socket?_of_create run
      refine Log.Balanced.loses_none before balanced ?_
      funext holder
      cases holder with
      | owner place =>
          cases place with
          | none => rfl
          | some name => exact Scene.held?_of_socket? log later (sockets name)
      | backend id part =>
          rw [Scene.held?, Scene.held?, Reactor.selector?_of_selectors selectors]
  | openSelector id fault =>
      exact Log.Balanced.loses_none before balanced (Reactor.held?_of_openSelector run)
  | @wrap source socket named name refusal =>
      obtain rfl := Reactor.eq_of_wrap named run
      have held : (⟨reactor, none, log⟩ : Scene Log).held? (.owner (some source)) = socket.owned? :=
        Scene.held?_of_named log named
      rw [← held]
      exact Log.Balanced.loses_update before balanced (Scene.held?_without log later _)
  | @adopt source socket named name refusal =>
      cases Reactor.adopted_of_runs run with
      | refused absent plain => exact absurd named (absent socket)
      | discarded named' discarded apart =>
          have held : (⟨reactor, none, log⟩ : Scene Log).held? (.owner (some source)) =
              socket.owned? := Scene.held?_of_named log named
          rw [← held]
          exact Log.Balanced.loses_update before balanced (Scene.held?_setOwner log later _)

/-- On a host that gives out no descriptor that is open, every run leaves exactly those
descriptors open that an owner or a selector's backend holds, each held once, and closes only
what has been obtained and not been closed since.  An operation that fails leaves nothing open
that was not open before and gives up what it was to move.  Creating and adopting by mistake
leaves the socket as it was.  The calls of sockets, of new owners and of listeners name and
close nothing but what they own at that time, except that a listener is asked for connections. -/
theorem descriptors_are_owned_once {trace : List Entry}
    (history : History (Log.Answers base) ∅ [] trace reactor log) :
    (⟨reactor, none, log⟩ : Scene Log).Balanced base ∧
    (∀ (operation : Operation) (result : operation.Result) after later gone,
      (operation.perform reactor).Runs (Log.Answers base) log (result, after) later →
        operation.Forfeits reactor result gone → log.Loses gone later) ∧
    (∀ name access protocol misuse after later, (reactor.ask name access (.create protocol)).Runs
      (Log.Answers base) log (.error (.failed (.misuse misuse)), after) later →
        after.socket? name = reactor.socket? name ∧ later = log) ∧
    (∀ name source misuse after later, (reactor.adopt name source).Runs
      (Log.Answers base) log (.error (.failed (.misuse misuse)), after) later →
        after.owner? name = reactor.owner? name ∧ ∃ socket,
          reactor.owner? source = some (.handle socket) ∧ log.Loses socket.owned? later) ∧
    (∀ (socket : Socket) command,
      (socket.perform command).KeepsTo base [] socket.owned?.toList) ∧
    (∀ socket : Socket, socket.discard.KeepsTo base [] socket.owned?.toList) ∧
    (∀ use socket, (Channel.ofSocket use socket).run.KeepsTo base [] socket.owned?.toList) ∧
    (∀ owner : Owner, owner.accept.run.KeepsTo base owner.socket.owned?.toList []) ∧
    ∀ recipe : Recipe, recipe.make.run.KeepsTo base [] [] := by
  have balanced := history.balanced (.empty []) (.empty base)
  have forfeited : ∀ (operation : Operation) (result : operation.Result) after later gone,
      (operation.perform reactor).Runs (Log.Answers base) log (result, after) later →
        operation.Forfeits reactor result gone → log.Loses gone later := by
    intro operation result after later gone run forfeits
    have balanced' := (history.snoc run).balanced (.empty []) (.empty base)
    exact forfeits.loses balanced balanced' run
  refine ⟨balanced, forfeited, ?_, ?_, Socket.keepsTo_perform, Socket.keepsTo_discard,
    Channel.keepsTo_ofSocket, Owner.keepsTo_accept, Recipe.keepsTo_make⟩
  · intro name access protocol misuse after later run
    obtain ⟨-, sockets, host⟩ := Reactor.socket?_of_create run
    exact ⟨sockets name, host ⟨misuse, rfl⟩⟩
  · intro name source misuse after later run
    cases Reactor.adopted_of_runs run with
    | refused absent plain => exact absurd rfl (plain misuse)
    | @discarded socket refusal later named discarded apart =>
        refine ⟨?_, socket, named, forfeited (.adopt name source) _ _ _ _ run (.adopt named name _)⟩
        rw [Reactor.emptied, Reactor.owner?_setOwner, if_neg (apart misuse rfl)]

/-- Two handles are opened, and one of them is told to adopt the other. -/
def mistakenRun : List Operation :=
  [.make "first" (.handle .tcp4), .make "second" (.handle .tcp4), .adopt "first" "second"]

theorem mistaken_adoption_is_balanced :
    ∃ trace reactor log, replay obligingHost ∅ [] mistakenRun = some (trace, reactor, log) ∧
      log.opened = [⟨3⟩] ∧ (⟨reactor, none, log⟩ : Scene Log).Balanced fun _ => False := by
  have plays : (replay obligingHost ∅ [] mistakenRun).map (fun played => played.2.2.opened) =
      some [⟨3⟩] := by
    decide +kernel
  obtain ⟨⟨trace, reactor, log⟩, played, opened⟩ := Option.map_eq_some_iff.mp plays
  have kept := descriptors_are_owned_once (history_of_replay answers_obligingHost played)
  exact ⟨trace, reactor, log, played, opened, kept.1⟩

end SocketReactor
