import Mathlib.Data.List.Nodup
import SocketReactor.Proofs.Host.Kernel

/-!
# Ledgers

A host that keeps a log of the calls and their replies.  From the log one reads which
descriptors have been obtained and not been closed since, and for each of them what
has made it a listener or a connection and which halves have been shut down after that.
`Log.Answers` lets the host reply as it likes, except that a descriptor it gives out is
not one that is open.
-/

namespace SocketReactor

structure Exchange where
  call : Call
  reply : call.Reply

/-- The calls that have been made, the first one first. -/
abbrev Log := List Exchange

inductive Lead where
  | listener
  | connection
  deriving DecidableEq, Repr

def Call.names : Call → List Descriptor
  | .socket _ _ _ | .openBackend | .openPipe | .lookup _ | .reverseLookup _ | .interfaces => []
  | .watch backend (.add descriptor _ _) | .watch backend (.modify descriptor _ _)
  | .watch backend (.delete descriptor) => [backend, descriptor]
  | .bind descriptor _ | .listen descriptor _ | .accept descriptor | .connect descriptor _
  | .localName descriptor | .peerName descriptor | .send descriptor _ | .sendTo descriptor _ _
  | .receive descriptor _ | .receiveFrom descriptor _ | .shutdown descriptor _ | .close descriptor
  | .statusFlags descriptor | .setStatusFlags descriptor _ | .intOption descriptor _
  | .setIntOption descriptor _ _ | .timeOption descriptor _ | .setTimeOption descriptor _ _
  | .lingerOption descriptor | .setLingerOption descriptor _ | .await descriptor _ _
  | .readPipe descriptor _ | .writePipe descriptor _ => [descriptor]

/-- A call that gets no descriptor, closes none and makes nothing else of one. -/
def Call.IsPlain : Call → Prop
  | .socket _ _ _ | .accept _ | .close _ | .openBackend | .openPipe | .listen _ _ | .connect _ _
  | .shutdown _ _ => False
  | _ => True

namespace Exchange

def given : Exchange → List Descriptor
  | ⟨.socket _ _ _, .ok descriptor⟩ => [descriptor]
  | ⟨.accept _, .ok (descriptor, _)⟩ => [descriptor]
  | ⟨.openBackend, .ok descriptor⟩ => [descriptor]
  | ⟨.openPipe, .ok (reader, writer)⟩ => [reader, writer]
  | _ => []

/-- The descriptor that is gone, also if closing it reports a failure. -/
def closed? : Exchange → Option Descriptor
  | ⟨.close descriptor, _⟩ => some descriptor
  | _ => none

/-- The descriptor that has been made a listener or a connection.  A connection that is still
being made counts. -/
def leads? : Exchange → Option (Descriptor × Lead)
  | ⟨.listen descriptor _, .ok ()⟩ => some (descriptor, .listener)
  | ⟨.accept _, .ok (descriptor, _)⟩ => some (descriptor, .connection)
  | ⟨.connect descriptor _, .ok ()⟩ => some (descriptor, .connection)
  | ⟨.connect descriptor _, .error errno⟩ =>
      if errno = .inProgress ∨ errno = .interrupted then some (descriptor, .connection) else none
  | _ => none

def shuts? : Exchange → Option (Descriptor × Half)
  | ⟨.shutdown descriptor half, .ok ()⟩ => some (descriptor, half)
  | _ => none

end Exchange

/-- A descriptor that is open: what it has been made, and which halves have been shut down
since. -/
structure Hold where
  descriptor : Descriptor
  lead : Option Lead
  readShut : Bool
  writeShut : Bool
  deriving DecidableEq, Repr

namespace Hold

def new (descriptor : Descriptor) : Hold := ⟨descriptor, none, false, false⟩

/-- The descriptor with something new made of it. -/
def led (hold : Hold) (lead : Lead) : Hold := ⟨hold.descriptor, some lead, false, false⟩

def isShut (hold : Hold) : Half → Bool
  | .read => hold.readShut
  | .write => hold.writeShut

def shut (hold : Hold) : Half → Hold
  | .read => { hold with readShut := true }
  | .write => { hold with writeShut := true }

def note (hold : Hold) (exchange : Exchange) : Hold :=
  match exchange.leads? with
  | some (descriptor, lead) => if descriptor = hold.descriptor then hold.led lead else hold
  | none => match exchange.shuts? with
    | some (descriptor, half) => if descriptor = hold.descriptor then hold.shut half else hold
    | none => hold

@[simp] theorem descriptor_led (hold : Hold) (lead : Lead) :
    (hold.led lead).descriptor = hold.descriptor := rfl

@[simp] theorem descriptor_shut (hold : Hold) (half : Half) :
    (hold.shut half).descriptor = hold.descriptor := by
  cases half <;> rfl

@[simp] theorem isShut_led (hold : Hold) (lead : Lead) (half : Half) :
    (hold.led lead).isShut half = false := by
  cases half <;> rfl

theorem isShut_shut (hold : Hold) (half other : Half) :
    (hold.shut half).isShut other = (hold.isShut other || decide (other = half)) := by
  cases half <;> cases other <;> simp [shut, isShut]

theorem note_of_leads {hold : Hold} {exchange : Exchange} (lead : Lead)
    (leads : exchange.leads? = some (hold.descriptor, lead)) :
    hold.note exchange = hold.led lead := by
  simp [note, leads]

theorem note_of_shuts {hold : Hold} {exchange : Exchange} (half : Half)
    (leads : exchange.leads? = none) (shuts : exchange.shuts? = some (hold.descriptor, half)) :
    hold.note exchange = hold.shut half := by
  simp [note, leads, shuts]

theorem note_eq_self {hold : Hold} {exchange : Exchange} (leads : exchange.leads? = none)
    (shuts : exchange.shuts? = none) : hold.note exchange = hold := by
  simp [note, leads, shuts]

@[simp] theorem descriptor_note (hold : Hold) (exchange : Exchange) :
    (hold.note exchange).descriptor = hold.descriptor := by
  unfold note
  split
  · split <;> rfl
  · split
    · split
      · exact hold.descriptor_shut _
      · rfl
    · rfl

end Hold

def settle (holds : List Hold) (exchange : Exchange) : List Hold :=
  ((holds.filter fun hold => exchange.closed? ≠ some hold.descriptor) ++
    exchange.given.map Hold.new).map (·.note exchange)

theorem mem_settle {holds : List Hold} {exchange : Exchange} {hold : Hold} :
    hold ∈ settle holds exchange ↔
      (∃ former ∈ holds, exchange.closed? ≠ some former.descriptor ∧
        former.note exchange = hold) ∨
      ∃ descriptor ∈ exchange.given, (Hold.new descriptor).note exchange = hold := by
  simp only [settle, List.mem_map, List.mem_append, List.mem_filter, decide_eq_true_eq]
  constructor
  · rintro ⟨former, ⟨mem, kept⟩ | ⟨descriptor, given, rfl⟩, rfl⟩
    · exact .inl ⟨former, mem, kept, rfl⟩
    · exact .inr ⟨descriptor, given, rfl⟩
  · rintro (⟨former, mem, kept, rfl⟩ | ⟨descriptor, given, rfl⟩)
    · exact ⟨former, .inl ⟨mem, kept⟩, rfl⟩
    · exact ⟨_, .inr ⟨descriptor, given, rfl⟩, rfl⟩

theorem map_descriptor_settle (holds : List Hold) (exchange : Exchange) :
    (settle holds exchange).map Hold.descriptor =
      ((holds.map Hold.descriptor).filter fun descriptor =>
        exchange.closed? ≠ some descriptor) ++ exchange.given := by
  have noted : Hold.descriptor ∘ (·.note exchange) = Hold.descriptor := by
    funext hold
    exact hold.descriptor_note exchange
  have fresh : Hold.descriptor ∘ Hold.new = id := rfl
  rw [settle, List.map_map, noted, List.map_append, List.map_map, fresh, List.map_id,
    List.filter_map]
  rfl

/-- A plain call changes nothing. -/
theorem settle_of_isPlain {call : Call} (plain : call.IsPlain) (holds : List Hold)
    (reply : call.Reply) : settle holds ⟨call, reply⟩ = holds := by
  have silent : Exchange.closed? ⟨call, reply⟩ = none ∧ Exchange.given ⟨call, reply⟩ = [] ∧
      Exchange.leads? ⟨call, reply⟩ = none ∧ Exchange.shuts? ⟨call, reply⟩ = none := by
    cases call <;> first | exact plain.elim | exact ⟨rfl, rfl, rfl, rfl⟩
  obtain ⟨closes, gives, leads, shuts⟩ := silent
  simp [settle, closes, gives, Hold.note_eq_self leads shuts]

theorem settle_singleton {hold : Hold} {exchange : Exchange} (kept : exchange.closed? = none)
    (empty : exchange.given = []) : settle [hold] exchange = [hold.note exchange] := by
  simp [settle, kept, empty]

namespace Log

/-- The open descriptors that have been obtained in the log. -/
def holds (log : Log) : List Hold := log.foldl settle []

/-- The descriptors that have been obtained and not been closed since. -/
def opened (log : Log) : List Descriptor := log.holds.map Hold.descriptor

@[simp] theorem holds_snoc (log : Log) (exchange : Exchange) :
    holds (log ++ [exchange]) = settle log.holds exchange := by
  simp [holds, List.foldl_append]

/-- The host may give out what an exchange gives: descriptors that are neither open in the log
nor open for other reasons. -/
def New (base : Descriptor → Prop) (log : Log) (exchange : Exchange) : Prop :=
  exchange.given.Nodup ∧
    ∀ descriptor ∈ exchange.given, descriptor ≠ .absent ∧ ¬base descriptor ∧
      descriptor ∉ log.opened

/-- A host that keeps the log and replies as it likes, but gives out only descriptors that are
not open. -/
def Answers (base : Descriptor → Prop) : Answering Log := fun call log reply after =>
  after = log ++ [⟨call, reply⟩] ∧ log.New base ⟨call, reply⟩

/-- Every descriptor that has been closed was one that had been obtained and not been closed
since. -/
def Clean (log : Log) : Prop :=
  ∀ before descriptor reply rest, log = before ++ ⟨.close descriptor, reply⟩ :: rest →
    descriptor ∈ opened before

/-- No descriptor is open twice, and none is one of those that are open for other reasons. -/
structure Sane (base : Descriptor → Prop) (log : Log) : Prop where
  unique : log.opened.Nodup
  proper : ∀ descriptor ∈ log.opened, descriptor ≠ .absent ∧ ¬base descriptor
  clean : log.Clean

/-- The open descriptors are those in hand and those of a frame. -/
structure Splits (log : Log) (frame : Hold → Prop) (hand : List Hold) : Prop where
  mem : ∀ hold, hold ∈ log.holds ↔ frame hold ∨ hold ∈ hand
  apart : ∀ hold, frame hold → hold.descriptor ∉ hand.map Hold.descriptor

end Log

/-- A call closes nothing but what is in hand, makes nothing of anything else and sets the flags
of nothing else. -/
def Call.Minds (hand : List Hold) : Call → Prop
  | .close descriptor => descriptor ∈ hand.map Hold.descriptor
  | .listen descriptor _ | .connect descriptor _ | .shutdown descriptor _
  | .setStatusFlags descriptor _ =>
      descriptor = .absent ∨ descriptor ∈ hand.map Hold.descriptor
  | _ => True

namespace Log

variable {base : Descriptor → Prop} {log after : Log} {frame : Hold → Prop} {hand : List Hold}

/-- An exchange of a log is its last one or one of those before. -/
theorem eq_or_split_of_snoc {last exchange : Exchange} {before rest : Log}
    (split : log ++ [last] = before ++ exchange :: rest) :
    before = log ∧ exchange = last ∨ ∃ others, log = before ++ exchange :: others := by
  rcases List.eq_nil_or_concat rest with rfl | ⟨others, final, rfl⟩
  · obtain ⟨rfl, same⟩ := List.append_inj' split rfl
    cases same
    exact .inl ⟨rfl, rfl⟩
  · rw [List.concat_eq_append, ← List.cons_append, ← List.append_assoc] at split
    obtain ⟨rfl, -⟩ := List.append_inj' split rfl
    exact .inr ⟨others, rfl⟩

theorem clean_snoc {exchange : Exchange} (clean : log.Clean)
    (opened : ∀ descriptor, exchange.closed? = some descriptor → descriptor ∈ log.opened) :
    Clean (log ++ [exchange]) := by
  intro before descriptor reply rest split
  rcases eq_or_split_of_snoc split with ⟨rfl, rfl⟩ | ⟨others, former⟩
  · exact opened descriptor rfl
  · exact clean before descriptor reply others former

/-- What is not in hand is left alone. -/
theorem note_of_minds {call : Call} {reply : call.Reply} (sane : log.Sane base)
    (minds : call.Minds hand) (new : log.New base ⟨call, reply⟩) {hold : Hold}
    (mem : hold ∈ log.holds) (apart : hold.descriptor ∉ hand.map Hold.descriptor) :
    Exchange.closed? ⟨call, reply⟩ ≠ some hold.descriptor ∧ hold.note ⟨call, reply⟩ = hold := by
  have isOpen : hold.descriptor ∈ log.opened := List.mem_map_of_mem mem
  -- Every call names what is in hand, or no descriptor at all.
  have other : ∀ {descriptor}, descriptor = .absent ∨ descriptor ∈ hand.map Hold.descriptor →
      descriptor ≠ hold.descriptor := by
    rintro descriptor named rfl
    exact named.elim (sane.proper _ isOpen).1 apart
  cases call with
  | close descriptor =>
      refine ⟨fun same => apart ?_, rfl⟩
      rw [← Option.some.inj same]
      exact minds
  | listen descriptor backlog =>
      refine ⟨nofun, ?_⟩
      cases reply with
      | ok value => exact if_neg (other minds)
      | error errno => rfl
  | connect descriptor address =>
      refine ⟨nofun, ?_⟩
      cases reply with
      | ok value => exact if_neg (other minds)
      | error errno =>
          simp only [Hold.note, Exchange.leads?]
          split
          · rename_i leads
            split at leads <;> cases leads
            exact if_neg (other minds)
          · rfl
  | shutdown descriptor half =>
      refine ⟨nofun, ?_⟩
      cases reply with
      | ok value => exact if_neg (other minds)
      | error errno => rfl
  | accept listener =>
      refine ⟨nofun, ?_⟩
      match reply, new with
      | .error errno, _ => rfl
      | .ok (descriptor, peer), new =>
          -- A descriptor that is new is not that of an older hold.
          refine if_neg ?_
          rintro rfl
          exact (new.2 _ List.mem_cons_self).2.2 isOpen
  | _ => exact ⟨nofun, rfl⟩

theorem Sane.snoc {call : Call} {reply : call.Reply} (sane : log.Sane base)
    (new : log.New base ⟨call, reply⟩)
    (opened : ∀ descriptor, Exchange.closed? ⟨call, reply⟩ = some descriptor →
      descriptor ∈ log.opened) : Sane base (log ++ [⟨call, reply⟩]) where
  unique := by
    rw [Log.opened, holds_snoc, map_descriptor_settle]
    refine (sane.unique.filter _).append new.1 ?_
    intro descriptor former given
    exact (new.2 descriptor given).2.2 (List.mem_of_mem_filter former)
  proper := by
    rw [Log.opened, holds_snoc, map_descriptor_settle]
    intro descriptor mem
    rcases List.mem_append.mp mem with former | given
    · exact sane.proper descriptor (List.mem_of_mem_filter former)
    · exact ⟨(new.2 descriptor given).1, (new.2 descriptor given).2.1⟩
  clean := clean_snoc sane.clean opened

/-- What is in hand settles alone. -/
theorem Splits.snoc {call : Call} {reply : call.Reply} (sane : log.Sane base)
    (splits : log.Splits frame hand) (minds : call.Minds hand)
    (new : log.New base ⟨call, reply⟩) :
    Splits (log ++ [⟨call, reply⟩]) frame (settle hand ⟨call, reply⟩) where
  mem := by
    intro hold
    have framed : ∀ former, frame former → Exchange.closed? ⟨call, reply⟩ ≠
        some former.descriptor ∧ former.note ⟨call, reply⟩ = former := fun former outside =>
      note_of_minds sane minds new ((splits.mem former).mpr (.inl outside))
        (splits.apart former outside)
    rw [holds_snoc, mem_settle, mem_settle]
    constructor
    · rintro (⟨former, mem, kept, rfl⟩ | fresh)
      · rcases (splits.mem former).mp mem with outside | inside
        · rw [(framed former outside).2]
          exact .inl outside
        · exact .inr (.inl ⟨former, inside, kept, rfl⟩)
      · exact .inr (.inr fresh)
    · rintro (outside | ⟨former, inside, kept, rfl⟩ | fresh)
      · exact .inl ⟨hold, (splits.mem hold).mpr (.inl outside), framed hold outside⟩
      · exact .inl ⟨former, (splits.mem former).mpr (.inr inside), kept, rfl⟩
      · exact .inr fresh
  apart := by
    intro hold outside mem
    rw [map_descriptor_settle] at mem
    rcases List.mem_append.mp mem with former | given
    · exact splits.apart hold outside (List.mem_of_mem_filter former)
    · exact (new.2 _ given).2.2 (List.mem_map_of_mem ((splits.mem hold).mpr (.inl outside)))

/-- A log can be split around any of the descriptors that are open in it. -/
theorem splits_of_subset (subset : ∀ hold ∈ hand, hold ∈ log.holds) (sane : log.Sane base) :
    log.Splits (fun hold => hold ∈ log.holds ∧ hold.descriptor ∉ hand.map Hold.descriptor)
      hand where
  mem := by
    intro hold
    constructor
    · intro mem
      by_cases inside : hold.descriptor ∈ hand.map Hold.descriptor
      · obtain ⟨other, held, same⟩ := List.mem_map.mp inside
        obtain rfl : other = hold :=
          List.inj_on_of_nodup_map sane.unique (subset other held) mem same
        exact .inr held
      · exact .inl ⟨mem, inside⟩
    · rintro (⟨mem, -⟩ | held)
      · exact mem
      · exact subset hold held
  apart _ outside := outside.2

instance (log : Log) (exchange : Exchange) : Decidable (log.New (fun _ => False) exchange) :=
  inferInstanceAs (Decidable (_ ∧ _))

/-- The first descriptor from a number on that is not open, if there is one within so many. -/
def free (log : Log) (start : Nat) : Nat → Descriptor
  | 0 => .absent
  | within + 1 =>
      let descriptor : Descriptor := ⟨Int32.ofNat start⟩
      if descriptor ∈ log.opened then log.free (start + 1) within else descriptor

end Log

/-- What a host replies that does whatever it is asked and gives out the lowest descriptor that
is not open. -/
def obligingReply (log : Log) : (call : Call) → Option call.Reply
  | .socket _ _ _ | .openBackend => some (.ok (log.free 3 64))
  | .bind _ _ | .listen _ _ | .connect _ _ | .shutdown _ _ | .close _ | .setStatusFlags _ _
  | .watch _ _ => some (.ok ())
  | .statusFlags _ => some (.ok 0)
  | _ => none

/-- A host that does whatever it is asked and keeps a log. -/
def obligingHost : Program.Machine Log := fun call log =>
  (obligingReply log call).bind fun reply =>
    if log.New (fun _ => False) ⟨call, reply⟩ then some (reply, log ++ [⟨call, reply⟩]) else none

theorem answers_obligingHost (call : Call) (log : Log) (reply : call.Reply) (after : Log)
    (answered : obligingHost call log = some (reply, after)) :
    Log.Answers (fun _ => False) call log reply after := by
  obtain ⟨given, -, rest⟩ := Option.bind_eq_some_iff.mp answered
  split at rest
  · rename_i new
    cases rest
    exact ⟨rfl, new⟩
  · cases rest

end SocketReactor
