import SocketReactor.Proofs.Socket.OptionValues
import SocketReactor.Setup.Builder

/-!
# What is written of options

A new socket is written one value for each option that is asked for, and no other.  Sizes, counts
and seconds are written as signed numbers of 32 bits, limits on waiting as seconds and microseconds
of 64.  A limit is written as it is asked for; any other quantity is if it has a sign bit to spare,
and is cut to another number else.
-/

namespace SocketReactor

/-- The number that is written: of a limit on waiting the milliseconds. -/
def OptionWrite.number : OptionWrite → Int
  | int _ value => value.toInt
  | time _ value => value.seconds.toInt * 1000 + value.microseconds.toInt / 1000
  | linger value => value.seconds.toInt

def OptionWrite.IsTime : OptionWrite → Prop
  | time _ _ => True
  | _ => False

theorem OptionWrite.number_size (option : IntOption) (size : UInt64) :
    (OptionWrite.size option size).number = size.toNat ↔ size.toNat < 2 ^ 31 := by
  have cut : size.toUInt32.toNat = size.toNat % 2 ^ 32 := UInt64.toNat_toUInt32 size
  rw [OptionWrite.size, number, toInt_toInt32, cut, bmod_eq_iff]

theorem OptionWrite.number_count (option : IntOption) (count : UInt32) :
    (OptionWrite.count option count).number = count.toNat ↔ count.toNat < 2 ^ 31 := by
  have whole : count.toNat % 2 ^ 32 = count.toNat := Nat.mod_eq_of_lt count.toNat_lt
  rw [OptionWrite.count, number, toInt_toInt32, ← bmod_eq_iff, whole]

theorem OptionWrite.number_lingering (seconds : UInt32) :
    (OptionWrite.lingering (some seconds)).number = seconds.toNat ↔ seconds.toNat < 2 ^ 31 :=
  number_count .keepIdle seconds

theorem OptionWrite.number_timeout (option : TimeOption) (milliseconds : UInt64) :
    (OptionWrite.timeout option milliseconds).number = milliseconds.toNat := by
  rw [OptionWrite.timeout, number, TimeValue.seconds_ofMilliseconds,
    TimeValue.microseconds_ofMilliseconds]
  omega

namespace Setup.Options

/-- The options ask for a value, that stands for a number. -/
inductive Asks (options : Options) : OptionWrite → Nat → Prop where
  | reuseAddress {reuse : Reuse} (given : options.reuse = some reuse) (on : reuse.address = true) :
      Asks options (.flag .reuseAddress true) 1
  | reusePort {reuse : Reuse} (given : options.reuse = some reuse) (on : reuse.port = true) :
      Asks options (.flag .reusePort true) 1
  | noDelay {tcp : Tcp} (given : options.tcp = some tcp) (on : tcp.noDelay = true) :
      Asks options (.flag .noDelay true) 1
  | keepalive {tcp : Tcp} {probes : Keepalive} (given : options.tcp = some tcp)
      (probing : tcp.keepalive = some probes) : Asks options (.flag .keepalive true) 1
  | keepIdle {tcp : Tcp} {probes : Keepalive} (given : options.tcp = some tcp)
      (probing : tcp.keepalive = some probes) :
      Asks options (.count .keepIdle probes.idle) probes.idle.toNat
  | keepInterval {tcp : Tcp} {probes : Keepalive} (given : options.tcp = some tcp)
      (probing : tcp.keepalive = some probes) :
      Asks options (.count .keepInterval probes.interval) probes.interval.toNat
  | keepCount {tcp : Tcp} {probes : Keepalive} (given : options.tcp = some tcp)
      (probing : tcp.keepalive = some probes) :
      Asks options (.count .keepCount probes.count) probes.count.toNat
  | linger {tcp : Tcp} {seconds : Option UInt32} (given : options.tcp = some tcp)
      (linger : tcp.linger = some seconds) :
      Asks options (.lingering seconds) ((seconds.map UInt32.toNat).getD 0)
  | receiveBuffer {size : UInt64} (given : options.buffers.receive = some size) :
      Asks options (.size .receiveBuffer size) size.toNat
  | sendBuffer {size : UInt64} (given : options.buffers.send = some size) :
      Asks options (.size .sendBuffer size) size.toNat
  | receiveTimeout {milliseconds : UInt64} (given : options.timeouts.receive = some milliseconds) :
      Asks options (.timeout .receiveTimeout milliseconds) milliseconds.toNat
  | sendTimeout {milliseconds : UInt64} (given : options.timeouts.send = some milliseconds) :
      Asks options (.timeout .sendTimeout milliseconds) milliseconds.toNat

variable {options : Options} {write : OptionWrite} {quantity : Nat}

theorem asks_of_mem_reuseWrites {reuse : Reuse} (given : options.reuse = some reuse)
    (mem : write ∈ reuseWrites reuse) : ∃ quantity, options.Asks write quantity := by
  obtain ⟨address, port⟩ := reuse
  rcases List.mem_append.mp mem with mem | mem
  · cases address with
    | false => nomatch mem
    | true =>
        obtain rfl := List.mem_singleton.mp mem
        exact ⟨_, .reuseAddress given rfl⟩
  · cases port with
    | false => nomatch mem
    | true =>
        obtain rfl := List.mem_singleton.mp mem
        exact ⟨_, .reusePort given rfl⟩

theorem asks_of_mem_keepaliveWrites {tcp : Tcp} {probes : Keepalive}
    (given : options.tcp = some tcp) (probing : tcp.keepalive = some probes)
    (mem : write ∈ keepaliveWrites probes) : ∃ quantity, options.Asks write quantity := by
  simp only [keepaliveWrites, List.mem_cons, List.not_mem_nil, or_false] at mem
  obtain rfl | rfl | rfl | rfl := mem
  · exact ⟨_, .keepalive given probing⟩
  · exact ⟨_, .keepIdle given probing⟩
  · exact ⟨_, .keepInterval given probing⟩
  · exact ⟨_, .keepCount given probing⟩

theorem asks_of_mem_tcpWrites {tcp : Tcp} (given : options.tcp = some tcp)
    (mem : write ∈ tcpWrites tcp) : ∃ quantity, options.Asks write quantity := by
  rcases List.mem_append.mp mem with mem | mem
  · rcases List.mem_append.mp mem with mem | mem
    · cases on : tcp.noDelay with
      | false => simp [on] at mem
      | true =>
          rw [on] at mem
          obtain rfl := List.mem_singleton.mp mem
          exact ⟨_, .noDelay given on⟩
    · cases probing : tcp.keepalive with
      | none => simp [probing] at mem
      | some probes =>
          rw [probing] at mem
          exact asks_of_mem_keepaliveWrites given probing mem
  · simp only [Option.mem_toList, Option.map_eq_some_iff] at mem
    obtain ⟨seconds, linger, rfl⟩ := mem
    exact ⟨_, .linger given linger⟩

/-- The values that are written are those that are asked for. -/
theorem mem_writes : write ∈ options.writes ↔ ∃ quantity, options.Asks write quantity := by
  constructor
  · intro mem
    simp only [writes, List.mem_append, Option.mem_toList, Option.map_eq_some_iff] at mem
    obtain ((((mem | mem) | ⟨size, given, rfl⟩) | ⟨size, given, rfl⟩) | ⟨limit, given, rfl⟩) |
      ⟨limit, given, rfl⟩ := mem
    · cases given : options.reuse with
      | none => simp [given] at mem
      | some reuse =>
          rw [given] at mem
          exact asks_of_mem_reuseWrites given mem
    · cases given : options.tcp with
      | none => simp [given] at mem
      | some tcp =>
          rw [given] at mem
          exact asks_of_mem_tcpWrites given mem
    · exact ⟨_, .receiveBuffer given⟩
    · exact ⟨_, .sendBuffer given⟩
    · exact ⟨_, .receiveTimeout given⟩
    · exact ⟨_, .sendTimeout given⟩
  · rintro ⟨quantity, asks⟩
    cases asks with
    | reuseAddress given on | reusePort given on => simp [writes, reuseWrites, given, on]
    | noDelay given on => simp [writes, tcpWrites, given, on]
    | keepalive given probing | keepIdle given probing | keepInterval given probing
    | keepCount given probing =>
        simp [writes, tcpWrites, keepaliveWrites, given, probing]
    | linger given linger => simp [writes, tcpWrites, given, linger]
    | receiveBuffer given | sendBuffer given | receiveTimeout given | sendTimeout given =>
        simp [writes, given]

/-- A limit stands for the number that is asked for, and so does any other value exactly if the
number has a sign bit to spare. -/
theorem number_of_asks (asks : options.Asks write quantity) :
    write.number = quantity ↔ write.IsTime ∨ quantity < 2 ^ 31 := by
  cases asks with
  | reuseAddress | reusePort | noDelay | keepalive => exact iff_of_true rfl (.inr (by decide))
  | keepIdle | keepInterval | keepCount =>
      exact (OptionWrite.number_count _ _).trans (or_iff_right id).symm
  | linger given linger =>
      rename_i seconds
      cases seconds with
      | none => exact iff_of_true rfl (.inr (by decide))
      | some seconds => exact (OptionWrite.number_lingering seconds).trans (or_iff_right id).symm
  | receiveBuffer | sendBuffer =>
      exact (OptionWrite.number_size _ _).trans (or_iff_right id).symm
  | receiveTimeout | sendTimeout =>
      exact iff_of_true (OptionWrite.number_timeout _ _) (.inl trivial)

def names : List String :=
  [IntOption.reuseAddress.name, IntOption.reusePort.name, IntOption.noDelay.name,
    IntOption.keepalive.name, IntOption.keepIdle.name, IntOption.keepInterval.name,
    IntOption.keepCount.name, "SO_LINGER", IntOption.receiveBuffer.name, IntOption.sendBuffer.name,
    TimeOption.receiveTimeout.name, TimeOption.sendTimeout.name]

/-- What is written if it is given has one name. -/
theorem sublist_name {α : Type} (write : α → OptionWrite) {name : String}
    (named : ∀ value, (write value).name = name) (given : Option α) :
    ((given.map write).toList.map OptionWrite.name).Sublist [name] := by
  cases given with
  | none => exact List.nil_sublist _
  | some value => exact named value ▸ List.Sublist.refl _

theorem sublist_reuseNames (reuse : Option Reuse) :
    (((reuse.map reuseWrites).getD []).map OptionWrite.name).Sublist
      [IntOption.reuseAddress.name, IntOption.reusePort.name] := by
  obtain _ | ⟨_ | _, _ | _⟩ := reuse <;> decide

theorem sublist_tcpNames (tcp : Option Tcp) :
    (((tcp.map tcpWrites).getD []).map OptionWrite.name).Sublist
      [IntOption.noDelay.name, IntOption.keepalive.name, IntOption.keepIdle.name,
        IntOption.keepInterval.name, IntOption.keepCount.name, "SO_LINGER"] := by
  obtain _ | ⟨_ | _, _ | probes, _ | seconds⟩ := tcp <;>
    simp [tcpWrites, keepaliveWrites, OptionWrite.flag, OptionWrite.count, OptionWrite.lingering,
      OptionWrite.name]

theorem sublist_names (options : Options) :
    (options.writes.map OptionWrite.name).Sublist names := by
  simp only [writes, List.map_append]
  exact (sublist_reuseNames _).append (sublist_tcpNames _)
    |>.append (sublist_name (.size .receiveBuffer) (fun _ => rfl) _)
    |>.append (sublist_name (.size .sendBuffer) (fun _ => rfl) _)
    |>.append (sublist_name (.timeout .receiveTimeout) (fun _ => rfl) _)
    |>.append (sublist_name (.timeout .sendTimeout) (fun _ => rfl) _)

/-- No option is written twice. -/
theorem nodup_names (options : Options) : (options.writes.map OptionWrite.name).Nodup :=
  options.sublist_names.nodup (by decide)

end Setup.Options

end SocketReactor
