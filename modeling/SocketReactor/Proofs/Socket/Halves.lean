import SocketReactor.Proofs.Socket.Standing

/-!
# Shut halves in the log

What a log says of the halves of an open descriptor, and sockets whose halves agree with it.
-/

namespace SocketReactor

theorem Exchange.shuts?_of_leads {exchange : Exchange} {made : Descriptor × Lead}
    (leads : exchange.leads? = some made) : exchange.shuts? = none := by
  obtain ⟨call, reply⟩ := exchange
  cases call with
  | shutdown descriptor half => cases leads
  | _ => rfl

/-- An exchange makes something of the descriptor, or leaves what it is and takes note of a half
that is shut down. -/
theorem Hold.note_cases (hold : Hold) (exchange : Exchange) :
    (∃ lead, exchange.leads? = some (hold.descriptor, lead) ∧
      hold.note exchange = hold.led lead) ∨
    (∀ lead, exchange.leads? ≠ some (hold.descriptor, lead)) ∧
      (hold.note exchange).lead = hold.lead ∧
      ∀ half, (hold.note exchange).isShut half = true ↔
        hold.isShut half = true ∨ exchange.shuts? = some (hold.descriptor, half) := by
  cases leads : exchange.leads? with
  | some made =>
      obtain ⟨descriptor, lead⟩ := made
      by_cases here : descriptor = hold.descriptor
      · subst here
        exact .inl ⟨lead, rfl, note_of_leads lead leads⟩
      · have kept : hold.note exchange = hold := by
          simp [note, leads, here]
        refine .inr ⟨?_, by rw [kept], fun half => ?_⟩
        · rintro other ⟨⟩
          exact here rfl
        · rw [kept, Exchange.shuts?_of_leads leads]
          simp
  | none =>
      refine .inr ⟨fun _ impossible => (by cases impossible), ?_⟩
      cases shuts : exchange.shuts? with
      | none => simp [note_eq_self leads shuts]
      | some made =>
          obtain ⟨descriptor, half⟩ := made
          by_cases here : descriptor = hold.descriptor
          · subst here
            rw [note_of_shuts half leads shuts]
            refine ⟨by cases half <;> rfl, fun other => ?_⟩
            rw [isShut_shut, Bool.or_eq_true, decide_eq_true_eq, @eq_comm _ other half]
            simp
          · have kept : hold.note exchange = hold := by
              simp [note, leads, shuts, here]
            simp [kept, here]

namespace Log

variable {log : Log} {hold : Hold} {lead : Lead} {descriptor : Descriptor}

/-- The exchanges since the last one that made something of a descriptor.  None of them closes
it. -/
structure Since (log : Log) (descriptor : Descriptor) (lead : Lead) (rest : Log) : Prop where
  made : ∃ before exchange, log = before ++ exchange :: rest ∧
    exchange.leads? = some (descriptor, lead)
  last : ∀ exchange ∈ rest, ∀ other, exchange.leads? ≠ some (descriptor, other)
  kept : ∀ exchange ∈ rest, exchange.closed? ≠ some descriptor

theorem Since.snoc {rest : Log} {exchange : Exchange} (since : log.Since descriptor lead rest)
    (last : ∀ other, exchange.leads? ≠ some (descriptor, other))
    (kept : exchange.closed? ≠ some descriptor) :
    Since (log ++ [exchange]) descriptor lead (rest ++ [exchange]) where
  made := by
    obtain ⟨before, former, rfl, leads⟩ := since.made
    exact ⟨before, former, by simp, leads⟩
  last := by
    intro other mem
    rcases List.mem_append.mp mem with former | here
    · exact since.last other former
    · exact List.mem_singleton.mp here ▸ last
  kept := by
    intro other mem
    rcases List.mem_append.mp mem with former | here
    · exact since.kept other former
    · exact List.mem_singleton.mp here ▸ kept

theorem since_of_leads (log : Log) {exchange : Exchange}
    (leads : exchange.leads? = some (descriptor, lead)) :
    Since (log ++ [exchange]) descriptor lead [] :=
  ⟨⟨log, exchange, rfl, leads⟩, nofun, nofun⟩

/-- Of what has just been made no half has been shut down. -/
theorem exists_since_led (log : Log) {exchange : Exchange}
    (leads : exchange.leads? = some (hold.descriptor, lead)) :
    ∃ rest, Since (log ++ [exchange]) hold.descriptor lead rest ∧
      ∀ half, (hold.led lead).isShut half = true ↔
        ∃ other ∈ rest, other.shuts? = some (hold.descriptor, half) := by
  refine ⟨[], since_of_leads log leads, fun half => ?_⟩
  simp

/-- The halves that are shut are those that have been shut down since the descriptor became what
it is. -/
theorem exists_since (mem : hold ∈ log.holds) (known : hold.lead = some lead) :
    ∃ rest, log.Since hold.descriptor lead rest ∧ ∀ half, hold.isShut half = true ↔
      ∃ exchange ∈ rest, exchange.shuts? = some (hold.descriptor, half) := by
  induction log using List.reverseRecOn generalizing hold with
  | nil => cases mem
  | append_singleton log exchange ih =>
      rw [holds_snoc, mem_settle] at mem
      rcases mem with ⟨former, mem, kept, rfl⟩ | ⟨descriptor, given, rfl⟩
      · rw [Hold.descriptor_note]
        rcases former.note_cases exchange with ⟨made, leads, noted⟩ | ⟨last, same, noted⟩
        · rw [noted] at known ⊢
          cases known
          exact exists_since_led log leads
        · obtain ⟨rest, since, shut⟩ := ih mem (same ▸ known)
          refine ⟨rest ++ [exchange], since.snoc last kept, fun half => ?_⟩
          rw [noted, shut]
          simp [or_and_right, exists_or]
      · rw [Hold.descriptor_note]
        rcases (Hold.new descriptor).note_cases exchange with ⟨made, leads, noted⟩ | ⟨-, same, -⟩
        · rw [noted] at known ⊢
          cases known
          exact exists_since_led log leads
        · rw [same] at known
          cases known

end Log

namespace Socket

variable {log : Log} {socket later : Socket} {hand last : List Hold} {command : Command}

/-- The half is shut in a connection, in one that is being made and in a listener alone, and it is
shut if it has been shut down since the descriptor was made that. -/
structure Current (log : Log) (socket : Socket) (half : Half) : Prop where
  begun : socket.isShut half = true → socket.state = .opened ∨ socket.state = .opening
  shut : socket.state = .opened ∨ socket.state = .opening → ∃ descriptor rest,
    socket.owned? = some descriptor ∧
    log.Since descriptor (if socket.isListening then .listener else .connection) rest ∧
    (socket.isShut half = true ↔
      ∃ exchange ∈ rest, exchange.shuts? = some (descriptor, half))

def TellsOf (log : Log) (socket : Socket) (stale : Half → Prop) : Prop :=
  ∃ hand, (∀ hold ∈ hand, hold ∈ log.holds) ∧ socket.Tells stale hand

variable {stale : Half → Prop} {half : Half}

/-- A socket without a descriptor has nothing to tell. -/
theorem TellsOf.of_bare (bare : socket.owned? = none) (log : Log) : socket.TellsOf log stale := by
  cases socket with
  | closed former => exact ⟨[], List.forall_mem_nil _, rfl⟩
  | live parts => cases bare

theorem TellsOf.mono {wider : Half → Prop} (tells : socket.TellsOf log stale)
    (more : ∀ half, stale half → wider half) : socket.TellsOf log wider := by
  obtain ⟨hand, subset, tells⟩ := tells
  exact ⟨hand, subset, tells.mono more⟩

theorem begun_iff {parts : LiveSocket} :
    (live parts).state = .opened ∨ (live parts).state = .opening ↔ parts.stage ≠ .fresh := by
  cases stage : parts.stage <;> simp [state, stage, Stage.state]

theorem lead?_of_begun {parts : LiveSocket} (begun : parts.stage ≠ .fresh) :
    parts.stage.lead? = some (if (live parts).isListening then .listener else .connection) := by
  cases stage : parts.stage with
  | fresh => exact absurd stage begun
  | listening | connected | connecting => simp [isListening, live?, stage, Stage.lead?]

theorem TellsOf.current (tells : socket.TellsOf log stale) (fresh : ¬stale half) :
    socket.Current log half := by
  obtain ⟨hand, subset, tells⟩ := tells
  cases socket with
  | closed former =>
      exact ⟨by cases half <;> nofun, fun begun => by rcases begun with ⟨⟨⟩⟩ | ⟨⟨⟩⟩⟩
  | live parts =>
      obtain ⟨hold, rfl, named, said⟩ := tells
      have mem := subset hold List.mem_cons_self
      by_cases new : parts.stage = .fresh
      · rw [LiveSocket.tells_of_fresh new] at said
        refine ⟨fun down => ?_, fun begun => absurd new (begun_iff.mp begun)⟩
        rw [isShut_live, said half fresh] at down
        cases down
      · rw [LiveSocket.tells_of_lead? (lead?_of_begun new)] at said
        obtain ⟨rest, since, shut⟩ := Log.exists_since mem said.1
        rw [named] at since shut
        refine ⟨fun _ => begun_iff.mpr new, fun _ => ⟨_, rest, rfl, since, ?_⟩⟩
        rw [isShut_live, said.2 half fresh, shut]

/-- A turn leaves a socket its descriptor, unless it closes it or gives it one. -/
theorem Turned.owned? (turned : Turned socket hand command later last) :
    later.owned? = socket.owned? ∨ later.owned? = none ∨ socket.owned? = none := by
  cases turned with
  | created => exact .inr (.inr rfl)
  | closed => exact .inr (.inl rfl)
  | @shut parts hold half begun => cases half <;> exact .inl rfl
  | kept | bound | listening | connected | finished | refused => exact .inl rfl

theorem grows_of_shutdown {base : Descriptor → Prop} {descriptor : Descriptor} {half : Half}
    {fault : Errno → Fault} {outcome : Except Fault Unit} {after : Log}
    (run : (Attempt.ofCall (Program.request (.shutdown descriptor half)) fault).run.Runs
      (Log.Answers base) log outcome after) :
    ∃ reply, after = log ++ [⟨.shutdown descriptor half, reply⟩] := by
  obtain ⟨reply, between, called, rest⟩ := Program.runs_bind.mp run
  obtain ⟨rfl, -⟩ := Program.runs_request.mp called
  refine ⟨reply, ?_⟩
  cases reply <;> exact rest.2

/-- A half that is shut down without a call has been shut down before. -/
theorem isShut_of_runs_shutdown {base : Descriptor → Prop} {half : Half} {reply : Reply}
    (run : (socket.perform (.shutdown half)).Runs (Log.Answers base) log (.ok reply, later) log) :
    socket.isShut half = true := by
  rw [perform_eq] at run
  obtain ⟨⟨outcome, settled⟩, between, tried, same, rfl⟩ := Program.runs_bind.mp run
  cases outcome with
  | error fault => cases same
  | ok value =>
      rw [shutdown_eq] at tried
      obtain ⟨attempted, middle, tried, committed⟩ := Program.runs_bind.mp tried
      rcases Attempt.runs_bind.mp tried with ⟨fault, -, rfl⟩ | ⟨parts, between, passed, rest⟩
      · cases committed.1
      · obtain ⟨passed, rfl⟩ := passed
        obtain ⟨rfl, -⟩ := eq_live_of_require passed.symm
        cases half <;>
        · dsimp only at rest
          split at rest
          · rw [isShut_live]
            assumption
          · rcases Attempt.runs_bind.mp rest with ⟨fault, -, rfl⟩ | ⟨answer, asked, called, rest⟩
            · cases committed.1
            · obtain ⟨answered, grown⟩ := grows_of_shutdown called
              obtain ⟨rfl, rfl⟩ := rest
              obtain ⟨-, still⟩ := committed
              rw [grown] at still
              simp at still

end Socket

end SocketReactor
