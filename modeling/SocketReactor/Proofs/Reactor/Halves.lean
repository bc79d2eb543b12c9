import SocketReactor.Proofs.Reactor.Balance
import SocketReactor.Proofs.Reactor.Owners
import SocketReactor.Proofs.Socket.Halves

/-!
# Shut halves of the sockets of a reactor

After every run a socket says of its halves what the log says of its descriptor.  The one
exception are halves that are spoiled: that had been shut down when a connection of the
descriptor was refused.
-/

namespace SocketReactor

variable {base : Descriptor → Prop} {trace : List Entry} {reactor after : Reactor}
  {log later : Log} {descriptor : Descriptor} {half : Half}

def Reactor.Owns (reactor : Reactor) (descriptor : Descriptor) : Prop :=
  ∃ name socket, reactor.socket? name = some socket ∧ socket.owned? = some descriptor

/-- A connection of the descriptor was refused after the half had been shut down. -/
def Entry.Spoils (entry : Entry) (descriptor : Descriptor) (half : Half) : Prop :=
  ∃ name access socket settled, entry.operation = .ask name access .finishConnect ∧
    entry.before.socket? name = some socket ∧ entry.after.socket? name = some settled ∧
    socket.owned? = some descriptor ∧ socket.Stale .finishConnect settled half

/-- The half of the descriptor has been spoiled, and the descriptor has been owned ever since. -/
def Spoiled (trace : List Entry) (descriptor : Descriptor) (half : Half) : Prop :=
  EverSince (·.Spoils descriptor half) (·.after.Owns descriptor) trace

namespace Scene

variable {commands : String → Command → Prop} {scene next : Scene Log} {place : Option String}
  {owner : Owner} {spoiled : Descriptor → Half → Prop}

/-- Every socket tells of what is open, but for the halves of its descriptor that are spoiled. -/
def Telling (spoiled : Descriptor → Half → Prop) (scene : Scene Log) : Prop :=
  ∀ place owner, scene.owner? place = some owner → owner.socket.TellsOf scene.host fun half =>
    ∃ descriptor, owner.socket.owned? = some descriptor ∧ spoiled descriptor half

/-- A socket that has been turned tells of what is open, but for halves that were spoiled or have
been spoiled now. -/
theorem Carries.telling (carries : Carries commands scene next place owner)
    (telling : scene.Telling spoiled) :
    owner.socket.TellsOf next.host fun half => ∃ descriptor,
      owner.socket.owned? = some descriptor ∧ (spoiled descriptor half ∨
        ∃ name before, place = some name ∧ scene.owner? place = some before ∧
          commands name .finishConnect ∧ before.socket.owned? = some descriptor ∧
          before.socket.Stale .finishConnect owner.socket half) := by
  cases carries with
  | kept had same kept =>
      rw [same]
      obtain ⟨hand, subset, tells⟩ := telling _ _ had
      refine ⟨hand, fun hold inside => kept hold (subset hold inside) ?_, tells.mono ?_⟩
      · have owned : hold.descriptor ∈ hand.map Hold.descriptor := List.mem_map_of_mem inside
        rw [tells.fits] at owned
        exact Option.mem_toList.mp owned
      · rintro half ⟨descriptor, owned, known⟩
        exact ⟨descriptor, owned, .inl known⟩
  | born born subset => exact ⟨_, subset, born.mono fun _ => False.elim⟩
  | @turned name before command here had commanded turns =>
      obtain ⟨hand, subset, tells⟩ := telling _ _ had
      obtain ⟨last, turned, held⟩ := turns hand tells.fits subset
      -- What was spoiled of the descriptor before is spoiled of it still, unless it is gone.
      by_cases bare : owner.socket.owned? = none
      · exact .of_bare bare _
      · refine ⟨last, held, (turned.tells tells).mono ?_⟩
        rintro half (⟨descriptor, owned, known⟩ | stale)
        · rcases turned.owned? with same | gone | new
          · exact ⟨descriptor, same.trans owned, .inl known⟩
          · exact absurd gone bare
          · cases owned.symm.trans new
        · obtain ⟨rfl, opening, -⟩ := id stale
          obtain ⟨descriptor, owned⟩ := Socket.exists_owned (opening.trans_ne (by decide))
          rcases turned.owned? with same | gone | new
          · exact ⟨descriptor, same.trans owned,
              .inr ⟨name, before, here, had, commanded, owned, stale⟩⟩
          · exact absurd gone bare
          · cases owned.symm.trans new

/-- A chain of moves in which no connection is finished spoils nothing. -/
theorem Telling.moves {asks : KeyId → Prop} {polls : Nat → Prop}
    (clear : ∀ name, ¬commands name .finishConnect) (linked : scene.Linked)
    (balanced : scene.Balanced base) (telling : scene.Telling spoiled)
    (steps : Moves (Log.Answers base) asks polls commands scene next) :
    next.Telling spoiled := by
  induction steps with
  | refl => exact telling
  | tail before step ih =>
      have balanced' := balanced.moves linked before
      intro place owner found
      have carries := (balanced'.move (linked.moves before) step).2 place owner found
      refine (carries.telling ih).mono ?_
      rintro half ⟨descriptor, owned, known | ⟨name, _, _, _, commanded, _⟩⟩
      · exact ⟨descriptor, owned, known⟩
      · exact absurd commanded (clear name)

/-- Finishing a connection accounts for all sockets. -/
theorem Balanced.finishConnect {name : String} {access : Access} {result : Except Refusal Reply}
    (balanced : (⟨reactor, none, log⟩ : Scene Log).Balanced base)
    (run : (reactor.ask name access .finishConnect).Runs (Log.Answers base) log (result, after)
      later) :
    Proceeds base ((Operation.ask name access .finishConnect).Commands · ·) ⟨reactor, none, log⟩
      ⟨after, none, later⟩ := by
  cases Reactor.asked_of_runs run with
  | refused ungranted plain => exact balanced.still rfl rfl fun _ => rfl
  | @performed command owner outcome moved after named granted other performed =>
      have tended : ∀ hand, owner.socket.Fits hand →
          (Log.Answers base).Tended (Call.Carefully []) hand
            (owner.socket.Turned hand .finishConnect moved) log later :=
        fun hand fits => (Socket.tends_perform .finishConnect fits).tended performed
      exact balanced.perform named ⟨rfl, rfl⟩ tended

/-- Finishing a connection may spoil halves of its descriptor, and of no other one. -/
theorem Telling.finishConnect {name : String} {access : Access} {result : Except Refusal Reply}
    (telling : (⟨reactor, none, log⟩ : Scene Log).Telling spoiled)
    (balanced : (⟨reactor, none, log⟩ : Scene Log).Balanced base)
    (run : (reactor.ask name access .finishConnect).Runs (Log.Answers base) log (result, after)
      later) :
    (⟨after, none, later⟩ : Scene Log).Telling fun descriptor half => spoiled descriptor half ∨
      Entry.Spoils ⟨reactor, .ask name access .finishConnect, result, after⟩ descriptor half := by
  intro place owner found
  have carries := (balanced.finishConnect run).2 place owner found
  refine (carries.telling telling).mono ?_
  rintro half ⟨descriptor, owned, known | ⟨target, before, rfl, had, ⟨rfl, -⟩, owned', stale⟩⟩
  · exact ⟨descriptor, owned, .inl known⟩
  · refine ⟨descriptor, owned, .inr ⟨_, access, before.socket, owner.socket, rfl, ?_, ?_, owned',
      stale⟩⟩
    · exact congrArg (Option.map Owner.socket) had
    · exact congrArg (Option.map Owner.socket) found

/-- What is spoiled and is still owned stays spoiled. -/
theorem Telling.record {entry : Entry}
    (telling : (⟨entry.after, none, later⟩ : Scene Log).Telling fun descriptor half =>
      Spoiled trace descriptor half ∨ entry.Spoils descriptor half) :
    (⟨entry.after, none, later⟩ : Scene Log).Telling (Spoiled (trace ++ [entry])) := by
  intro place owner found
  cases place with
  | none => cases found
  | some name =>
      refine (telling _ owner found).mono ?_
      rintro half ⟨descriptor, owned, known⟩
      have owns : entry.after.Owns descriptor :=
        ⟨name, owner.socket, congrArg (Option.map Owner.socket) found, owned⟩
      rcases known with former | spoils
      · exact ⟨descriptor, owned, former.snoc owns⟩
      · exact ⟨descriptor, owned, everSince_of_last spoils owns trace⟩

end Scene

/-- After every run every socket tells of what is open, but for spoiled halves. -/
theorem History.telling (history : History (Log.Answers base) ∅ [] trace reactor log) :
    (⟨reactor, none, log⟩ : Scene Log).Telling (Spoiled trace) := by
  induction history with
  | nil =>
      intro place owner found
      cases place <;> cases found
  | @snoc trace before after state later operation result past run ih =>
      have balanced := past.balanced (.empty []) (.empty base)
      by_cases finishing : ∃ name access, operation = .ask name access .finishConnect
      · obtain ⟨name, access, rfl⟩ := finishing
        exact (ih.finishConnect balanced run).record
      · have clear : ∀ name, ¬operation.Commands name .finishConnect := by
          intro name commanded
          cases operation with
          | ask target access command =>
              obtain ⟨rfl, rfl⟩ := commanded
              exact finishing ⟨_, _, rfl⟩
          | _ => exact commanded
        have told := ih.moves clear (past.linked (.empty [])) balanced (moves_of_runs run)
        refine Scene.Telling.record fun place owner found => (told place owner found).mono ?_
        rintro half ⟨descriptor, owned, known⟩
        exact ⟨descriptor, owned, .inl known⟩

/-- Shutting a half down without a call means that it has been shut down before. -/
theorem Reactor.isShut_of_ask {name : String} {access : Access} {reply : Reply}
    (run : (reactor.ask name access (.shutdown half)).Runs (Log.Answers base) log
      (.ok reply, after) log) :
    ∃ socket, reactor.socket? name = some socket ∧ socket.isShut half = true := by
  generalize succeeded : Except.ok reply = result at run
  cases Reactor.asked_of_runs run with
  | refused ungranted plain => cases succeeded
  | @performed command owner outcome moved after named granted other performed =>
      cases outcome with
      | error failure => cases succeeded
      | ok given =>
          exact ⟨owner.socket, congrArg (Option.map Owner.socket) named,
            Socket.isShut_of_runs_shutdown performed⟩

/-- After every run a half of a connection, and of a listener, is shut if it has been shut down
since the call that made the descriptor one, and no half of another socket is, unless the half of
the descriptor is spoiled.  So a half is shut down without a call only if that has been done
before to what the descriptor is now. -/
theorem shut_halves_are_current
    (history : History (Log.Answers base) ∅ [] trace reactor log) :
    (∀ name socket half, reactor.socket? name = some socket →
      (∀ descriptor, socket.owned? = some descriptor → ¬Spoiled trace descriptor half) →
        socket.Current log half) ∧
    ∀ name access half reply after, (reactor.ask name access (.shutdown half)).Runs
      (Log.Answers base) log (.ok reply, after) log →
        ∃ socket, reactor.socket? name = some socket ∧
        ∀ descriptor, socket.owned? = some descriptor → ¬Spoiled trace descriptor half →
          ∃ rest, log.Since descriptor (if socket.isListening then .listener else .connection)
            rest ∧ ∃ exchange ∈ rest, exchange.shuts? = some (descriptor, half) := by
  have current : ∀ name socket half, reactor.socket? name = some socket →
      (∀ descriptor, socket.owned? = some descriptor → ¬Spoiled trace descriptor half) →
        socket.Current log half := by
    intro name socket half named unspoiled
    obtain ⟨owner, found, rfl⟩ := Option.map_eq_some_iff.mp named
    refine (history.telling (some name) owner found).current ?_
    rintro ⟨descriptor, owned, spoiled⟩
    exact unspoiled descriptor owned spoiled
  refine ⟨current, fun name access half reply after run => ?_⟩
  obtain ⟨socket, named, down⟩ := Reactor.isShut_of_ask run
  refine ⟨socket, named, fun descriptor owned unspoiled => ?_⟩
  have told := current name socket half named fun other owned' =>
    Option.some.inj (owned.symm.trans owned') ▸ unspoiled
  obtain ⟨other, rest, owned', since, shut⟩ := told.shut (told.begun down)
  obtain rfl : descriptor = other := Option.some.inj (owned.symm.trans owned')
  exact ⟨rest, since, shut.mp down⟩

def halfClosedRun : List Operation :=
  [.make "only" (.handle .tcp4), .ask "only" .own (.connectEndpoint (.new .loopbackV4 80)),
    .ask "only" .own (.shutdown .write)]

theorem half_closed_handle_is_current :
    ∃ trace reactor log socket,
      replay obligingHost ∅ [] halfClosedRun = some (trace, reactor, log) ∧
      reactor.socket? "only" = some socket ∧ socket.isWriteShut = true ∧
      (∀ descriptor half, ¬Spoiled trace descriptor half) ∧ ∀ half, socket.Current log half := by
  have plays : ((replay obligingHost ∅ [] halfClosedRun).bind fun played =>
      (played.2.1.socket? "only").map fun socket =>
        (played.1.map Entry.operation, socket.isWriteShut)) = some (halfClosedRun, true) := by
    decide +kernel
  obtain ⟨⟨trace, reactor, log⟩, played, rest⟩ := Option.bind_eq_some_iff.mp plays
  obtain ⟨socket, named, same⟩ := Option.map_eq_some_iff.mp rest
  obtain ⟨operations, down⟩ := Prod.mk.inj same
  have unspoiled : ∀ descriptor half, ¬Spoiled trace descriptor half := by
    rintro descriptor half ⟨past, entry, others, rfl, ⟨name, access, _, _, finishes, -⟩, -⟩
    have mem : Operation.ask name access .finishConnect ∈ halfClosedRun := by
      rw [← operations, ← finishes]
      exact List.mem_map_of_mem (by simp)
    simp [halfClosedRun] at mem
  have kept := shut_halves_are_current (history_of_replay answers_obligingHost played)
  exact ⟨trace, reactor, log, socket, played, named, down, unspoiled,
    fun half => kept.1 "only" socket half named fun descriptor _ => unspoiled descriptor half⟩

def shutListenerRun : List Operation :=
  [.make "only" (.handle .tcp4), .ask "only" .own (.bindEndpoint (.new .loopbackV4 80)),
    .ask "only" .own (.listen 4), .ask "only" .own (.shutdown .read)]

/-- The half of a listener is shut though nothing has been connected or accepted. -/
theorem listener_has_shut_half_without_connection :
    ∃ trace reactor log socket,
      History (Log.Answers fun _ => False) ∅ [] trace reactor log ∧
      reactor.socket? "only" = some socket ∧ socket.isReadShut = true ∧
      ∀ exchange ∈ log, ∀ descriptor, exchange.leads? ≠ some (descriptor, .connection) := by
  have plays : ((replay obligingHost ∅ [] shutListenerRun).bind fun played =>
      (played.2.1.socket? "only").map fun socket =>
        (socket.isReadShut, played.2.2.all fun exchange =>
          exchange.leads?.all fun made => decide (made.2 ≠ .connection))) =
        some (true, true) := by
    decide +kernel
  obtain ⟨⟨trace, reactor, log⟩, played, rest⟩ := Option.bind_eq_some_iff.mp plays
  obtain ⟨socket, named, same⟩ := Option.map_eq_some_iff.mp rest
  obtain ⟨down, unmade⟩ := Prod.mk.inj same
  refine ⟨trace, reactor, log, socket, history_of_replay answers_obligingHost played, named, down,
    ?_⟩
  intro exchange mem descriptor leads
  have bare := List.all_eq_true.mp unmade exchange mem
  simp [leads] at bare

end SocketReactor
