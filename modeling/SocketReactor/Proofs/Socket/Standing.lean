import SocketReactor.Proofs.Socket.Turns

/-!
# What a socket says of itself

What a socket says of its descriptor is what the calls have made of it.  The one turn after
which this is no longer so of a half is a refused connection with the half shut down, since
the socket still says so when it may connect again.
-/

namespace SocketReactor

variable {hand last : List Hold} {socket later : Socket} {command : Command}

def Stage.lead? : Stage → Option Lead
  | fresh => none
  | listening => some .listener
  | connected | connecting _ => some .connection

/-- The socket says of its descriptor what has been made of it: of a fresh one that no half has
been shut down, of others which halves have been shut down since.  Nothing is said of stale
halves. -/
def LiveSocket.Tells (parts : LiveSocket) (stale : Half → Prop) (hold : Hold) : Prop :=
  match parts.stage.lead? with
  | none => ∀ half, ¬stale half → parts.isShut half = false
  | some lead =>
      hold.lead = some lead ∧ ∀ half, ¬stale half → parts.isShut half = hold.isShut half

namespace LiveSocket

variable {parts : LiveSocket} {stale : Half → Prop} {hold : Hold} {lead : Lead}

@[simp] theorem isShut_stage (parts : LiveSocket) (stage : Stage) (half : Half) :
    ({ parts with stage := stage } : LiveSocket).isShut half = parts.isShut half := by
  cases half <;> rfl

theorem isShut_shut (parts : LiveSocket) (half other : Half) :
    (parts.shut half).isShut other = (parts.isShut other || decide (other = half)) := by
  cases half <;> cases other <;> simp [shut, isShut]

theorem stage_shut (parts : LiveSocket) (half : Half) : (parts.shut half).stage = parts.stage := by
  cases half <;> rfl

theorem descriptor_shut (parts : LiveSocket) (half : Half) :
    (parts.shut half).descriptor = parts.descriptor := by
  cases half <;> rfl

theorem tells_of_lead? (known : parts.stage.lead? = some lead) :
    parts.Tells stale hold ↔ hold.lead = some lead ∧
      ∀ half, ¬stale half → parts.isShut half = hold.isShut half := by
  rw [Tells, known]

theorem tells_of_fresh (fresh : parts.stage = .fresh) :
    parts.Tells stale hold ↔ ∀ half, ¬stale half → parts.isShut half = false := by
  rw [Tells, fresh]
  rfl

/-- A socket of which no half has been shut down tells of a descriptor that has just been made
something. -/
theorem tells_led (clear : ∀ half, ¬stale half → parts.isShut half = false)
    (known : parts.stage.lead? = some lead) : parts.Tells stale (hold.led lead) := by
  rw [tells_of_lead? known]
  refine ⟨rfl, fun half current => (clear half current).trans ?_⟩
  cases half <;> rfl

/-- The more halves are stale, the less is said. -/
theorem Tells.mono {wider : Half → Prop} (tells : parts.Tells stale hold)
    (more : ∀ half, stale half → wider half) : parts.Tells wider hold := by
  unfold Tells at tells ⊢
  split at tells
  · exact fun half current => tells half (mt (more half) current)
  · exact ⟨tells.1, fun half current => tells.2 half (mt (more half) current)⟩

end LiveSocket

theorem Stage.lead?_of_isConnection {stage : Stage} (connection : stage.IsConnection) :
    stage.lead? = some .connection := by
  cases stage with
  | fresh | listening => exact connection.elim
  | connected | connecting => rfl

theorem Stage.lead?_of_ne_fresh {stage : Stage} (begun : stage ≠ .fresh) :
    ∃ lead, stage.lead? = some lead := by
  cases stage with
  | fresh => exact absurd rfl begun
  | listening => exact ⟨_, rfl⟩
  | connected | connecting => exact ⟨_, rfl⟩

namespace Socket

variable {stale : Half → Prop}

/-- In hand is what the socket owns, and the socket says of it what has been made of it. -/
def Tells (socket : Socket) (stale : Half → Prop) (hand : List Hold) : Prop :=
  match socket with
  | closed _ => hand = []
  | live parts =>
      ∃ hold, hand = [hold] ∧ hold.descriptor = parts.descriptor ∧ parts.Tells stale hold

theorem Tells.fits (tells : socket.Tells stale hand) : socket.Fits hand := by
  cases socket with
  | closed former =>
      obtain rfl : hand = [] := tells
      rfl
  | live parts =>
      obtain ⟨hold, rfl, same, -⟩ := tells
      exact congrArg (fun descriptor => [descriptor]) same

theorem Tells.mono {wider : Half → Prop} (tells : socket.Tells stale hand)
    (more : ∀ half, stale half → wider half) : socket.Tells wider hand := by
  cases socket with
  | closed former => exact tells
  | live parts =>
      obtain ⟨hold, same, named, said⟩ := tells
      exact ⟨hold, same, named, said.mono more⟩

def isShut (socket : Socket) : Half → Bool
  | .read => socket.isReadShut
  | .write => socket.isWriteShut

@[simp] theorem isShut_live (parts : LiveSocket) (half : Half) :
    (live parts).isShut half = parts.isShut half := by
  cases half <;> exact Option.any_some

/-- A connection was refused after the half had been shut down. -/
def Stale (socket : Socket) (command : Command) (later : Socket) (half : Half) : Prop :=
  command = .finishConnect ∧ socket.state = .opening ∧ later.state = .created ∧
    socket.isShut half = true

/-- A turn may make halves stale, and mends none. -/
theorem Turned.tells (turned : Turned socket hand command later last)
    (tells : socket.Tells stale hand) :
    later.Tells (fun half => stale half ∨ socket.Stale command later half) last := by
  have former : socket.Tells (fun half => stale half ∨ socket.Stale command later half) hand :=
    tells.mono fun _ => .inl
  cases turned with
  | kept => exact former
  | created => exact ⟨_, rfl, rfl, fun half _ => by cases half <;> rfl⟩
  | bound binds fresh => exact former
  | listening fresh bound =>
      obtain ⟨hold, same, named, said⟩ := former
      cases same
      rw [LiveSocket.tells_of_fresh fresh] at said
      exact ⟨_, rfl, named, LiveSocket.tells_led (by simpa using said) rfl⟩
  | connected connects fresh connection =>
      obtain ⟨hold, same, named, said⟩ := former
      cases same
      rw [LiveSocket.tells_of_fresh fresh] at said
      exact ⟨_, rfl, named, LiveSocket.tells_led (by simpa using said)
        (Stage.lead?_of_isConnection connection)⟩
  | finished pending =>
      obtain ⟨hold, rfl, named, said⟩ := former
      rw [LiveSocket.tells_of_lead? (congrArg Stage.lead? pending)] at said
      refine ⟨hold, rfl, named, (LiveSocket.tells_of_lead? rfl).mpr ⟨said.1, ?_⟩⟩
      simpa using said.2
  | @refused parts hand target pending =>
      obtain ⟨hold, rfl, named, -⟩ := tells
      refine ⟨hold, rfl, named, (LiveSocket.tells_of_fresh rfl).mpr ?_⟩
      -- Whatever was shut before the refusal is stale from here on.
      intro half current
      rw [LiveSocket.isShut_stage, Bool.eq_false_iff]
      intro down
      refine current (.inr ⟨rfl, congrArg Stage.state pending, rfl, ?_⟩)
      rw [isShut_live, down]
  | @shut parts hold half begun =>
      obtain ⟨other, same, named, said⟩ := former
      cases same
      obtain ⟨lead, known⟩ := Stage.lead?_of_ne_fresh begun
      rw [LiveSocket.tells_of_lead? known] at said
      have known' : (parts.shut half).stage.lead? = some lead := by
        rw [LiveSocket.stage_shut, known]
      refine ⟨_, rfl, ?_, (LiveSocket.tells_of_lead? known').mpr ⟨?_, ?_⟩⟩
      · rw [Hold.descriptor_shut, LiveSocket.descriptor_shut, named]
      · rw [← said.1]
        cases half <;> rfl
      · intro other current
        rw [LiveSocket.isShut_shut, Hold.isShut_shut, said.2 other current]
  | closed => exact rfl

end Socket

end SocketReactor
