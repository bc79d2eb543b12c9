import SocketReactor.Lookup
import SocketReactor.Proofs.Address.Canonical
import SocketReactor.Proofs.Host.Yields

/-!
# Looking up one name in three ways

All addresses of a name, those of one family, and one address of a family are
found by three programs.  Asked of a host that answers every question about one
name alike, whatever its list of entries is, they agree:
`Lookup.name_lookup_agrees`.  The lists are described through the entries that
show an address and not through the loop that gathers them.
-/

namespace SocketReactor.Lookup

variable {entries front : List (Option RawAddress)} {entry : Option RawAddress}
  {address first second : Address} {family : Option Family} {found : List Address}

/-- The entry holds the address: it is of the family of the address, and the octets are those
of the address. -/
def Shows (entry : Option RawAddress) (address : Address) : Prop :=
  ∃ raw, entry = some raw ∧
    (raw.family? = some .inet4 ∧ address = .v4 raw.ipv4 ∨
      raw.family? = some .inet6 ∧ address = .v6 raw.ipv6)

def ShownBefore (entries : List (Option RawAddress)) (first second : Address) : Prop :=
  ∃ front entry back, entries = front ++ entry :: back ∧ Shows entry first ∧
    ∀ earlier ∈ front ++ [entry], ¬Shows earlier second

/-- The list has the shown addresses of the family, each one once and in the order in which
they are shown first. -/
structure Listed (family : Option Family) (entries : List (Option RawAddress))
    (found : List Address) : Prop where
  mem_iff : ∀ address, address ∈ found ↔
    (∀ only, family = some only → address.family = only) ∧ ∃ entry ∈ entries, Shows entry address
  nodup : found.Nodup
  order : found.Pairwise (ShownBefore entries)

theorem entryAddress?_eq_some_iff : entryAddress? entry = some address ↔ Shows entry address := by
  cases entry with
  | none => simp [entryAddress?, Shows]
  | some raw =>
      simp only [entryAddress?, Shows, Option.some.injEq, exists_eq_left']
      cases raw.family? with
      | none => simp
      | some family => cases family <;> simp [eq_comm]

theorem Shows.unique (shows_first : Shows entry first) (shows_second : Shows entry second) :
    first = second := by
  rw [← entryAddress?_eq_some_iff] at shows_first shows_second
  exact Option.some.inj (shows_first.symm.trans shows_second)

theorem wanted_iff : wanted family address = true ↔
    ∀ only, family = some only → address.family = only := by
  cases family <;> simp [wanted]

/-! ## The gathered list -/

/-- One entry more adds its address at the end, if that is wanted and new. -/
theorem addresses_snoc (family : Option Family) (entries : List (Option RawAddress))
    (entry : Option RawAddress) :
    addresses family (entries ++ [entry]) =
      match (entryAddress? entry).filter (wanted family) with
      | some address =>
          if address ∈ addresses family entries then addresses family entries
          else addresses family entries ++ [address]
      | none => addresses family entries := by
  have last : ([entry].filterMap entryAddress?).filter (wanted family) =
      ((entryAddress? entry).filter (wanted family)).toList := by
    cases shown : entryAddress? entry with
    | none => simp [shown]
    | some address => cases kept : wanted family address <;> simp [shown, kept, Option.filter_some]
  rw [addresses, List.filterMap_append, List.filter_append, last, List.foldl_append]
  cases (entryAddress? entry).filter (wanted family) with
  | none => rfl
  | some address => rfl

theorem ShownBefore.snoc (before : ShownBefore entries first second)
    (entry : Option RawAddress) : ShownBefore (entries ++ [entry]) first second := by
  obtain ⟨front, shown, back, rfl, shows_first, unshown⟩ := before
  exact ⟨front, shown, back ++ [entry], by simp, shows_first, unshown⟩

/-- What no entry has shown so far is shown after all that was. -/
theorem shownBefore_of_mem (member : entry ∈ entries) (shows_first : Shows entry first)
    (new : ∀ earlier ∈ entries, ¬Shows earlier second) : ShownBefore entries first second := by
  obtain ⟨front, back, rfl⟩ := List.append_of_mem member
  refine ⟨front, entry, back, rfl, shows_first, fun earlier among => new earlier ?_⟩
  rw [List.mem_append, List.mem_singleton] at among
  rcases among with inside | rfl
  · exact List.mem_append_left _ inside
  · exact member

namespace Listed

/-- An entry that shows no wanted address, or one that is listed already, leaves the list. -/
theorem skip (listed : Listed family entries found)
    (idle : ∀ address, Shows entry address → wanted family address = true → address ∈ found) :
    Listed family (entries ++ [entry]) found where
  mem_iff := by
    intro address
    constructor
    · intro member
      obtain ⟨right, shower, inside, shown⟩ := (listed.mem_iff address).mp member
      exact ⟨right, shower, List.mem_append_left _ inside, shown⟩
    · rintro ⟨right, shower, inside, shown⟩
      rw [List.mem_append, List.mem_singleton] at inside
      rcases inside with inside | rfl
      · exact (listed.mem_iff address).mpr ⟨right, shower, inside, shown⟩
      · exact idle address shown (wanted_iff.mpr right)
  nodup := listed.nodup
  order := listed.order.imp fun before => before.snoc entry

/-- An entry that shows a wanted address for the first time adds it at the end. -/
theorem grow (listed : Listed family entries found) (shown : Shows entry address)
    (right : wanted family address = true) (new : address ∉ found) :
    Listed family (entries ++ [entry]) (found ++ [address]) where
  mem_iff := by
    intro other
    rw [List.mem_append, List.mem_singleton, listed.mem_iff]
    constructor
    · rintro (⟨fits, shower, inside, shows_other⟩ | rfl)
      · exact ⟨fits, shower, List.mem_append_left _ inside, shows_other⟩
      · exact ⟨wanted_iff.mp right, entry, by simp, shown⟩
    · rintro ⟨fits, shower, inside, shows_other⟩
      rw [List.mem_append, List.mem_singleton] at inside
      rcases inside with inside | rfl
      · exact .inl ⟨fits, shower, inside, shows_other⟩
      · exact .inr (shows_other.unique shown)
  nodup := List.nodup_append.mpr ⟨listed.nodup, List.nodup_singleton _, by
    rintro listed_one member other last rfl
    exact new (List.mem_singleton.mp last ▸ member)⟩
  order := by
    have unshown : ∀ earlier ∈ entries, ¬Shows earlier address := fun earlier inside shows_it =>
      new ((listed.mem_iff address).mpr ⟨wanted_iff.mp right, earlier, inside, shows_it⟩)
    refine List.pairwise_append.mpr
      ⟨listed.order.imp fun before => before.snoc entry, List.pairwise_singleton _ _, ?_⟩
    intro earlier member last is_last
    rw [List.mem_singleton.mp is_last]
    obtain ⟨-, shower, inside, shows_earlier⟩ := (listed.mem_iff earlier).mp member
    exact (shownBefore_of_mem inside shows_earlier unshown).snoc entry

end Listed

theorem listed_addresses (family : Option Family) (entries : List (Option RawAddress)) :
    Listed family entries (addresses family entries) := by
  induction entries using List.reverseRecOn with
  | nil => exact ⟨by simp [addresses], List.nodup_nil, List.Pairwise.nil⟩
  | append_singleton entries entry listed =>
      rw [addresses_snoc]
      split
      · rename_i address kept
        obtain ⟨shown, right⟩ := Option.filter_eq_some_iff.mp kept
        rw [entryAddress?_eq_some_iff] at shown
        split
        · rename_i known
          exact listed.skip fun other shows_other _ => shows_other.unique shown ▸ known
        · rename_i new
          exact listed.grow shown right new
      · rename_i dropped
        refine listed.skip fun address shown right => ?_
        rw [entryAddress?_eq_some_iff.mpr shown, Option.filter_some, if_pos right] at dropped
        cases dropped

/-- Leaving out a family and leaving out what is there already do not hinder each other. -/
theorem addresses_some (family : Family) (entries : List (Option RawAddress)) :
    addresses (some family) entries =
      (addresses none entries).filter fun address => address.family = family := by
  induction entries using List.reverseRecOn with
  | nil => rfl
  | append_singleton entries entry ih =>
      rw [addresses_snoc, addresses_snoc, ih]
      cases entryAddress? entry with
      | none => rfl
      | some address =>
          by_cases right : address.family = family <;>
            by_cases known : address ∈ addresses none entries <;>
              simp [Option.filter_some, wanted, right, known]

/-! ## What a lookup finds -/

/-- What is found for a name, by what the text is and what the name service answers. -/
inductive Finds (book : String → Except LookupFailure (List (Option RawAddress))) (host : String)
    (family : Option Family) : Except Fault (List Address) → Prop where
  | literal {address : Address} (parsed : Address.parse host = .ok address)
      (right : ∀ only, family = some only → address.family = only) : Finds book host family (.ok [address])
  | foreign {address : Address} {only : Family} (parsed : Address.parse host = .ok address)
      (is_only : family = some only) (wrong : address.family ≠ only) : Finds book host family (.ok [])
  | named {entries : List (Option RawAddress)} {found : List Address}
      (name : ∀ address, Address.parse host ≠ .ok address) (whole : '\x00' ∉ host.toList)
      (answered : book host = .ok entries) (listed : Listed family entries found) :
      Finds book host family (.ok found)
  | unknown {failure : LookupFailure} (name : ∀ address, Address.parse host ≠ .ok address)
      (whole : '\x00' ∉ host.toList) (answered : book host = .error failure) :
      Finds book host family (.error (failed host failure))
  | cut (name : ∀ address, Address.parse host ≠ .ok address) (inner : '\x00' ∈ host.toList) :
      Finds book host family (.error (failed host unknownName))

theorem Finds.nodup {book : String → Except LookupFailure (List (Option RawAddress))}
    {host : String} {outcome : Except Fault (List Address)} (finds : Finds book host family outcome)
    (listed : outcome = .ok found) : found.Nodup := by
  cases finds with
  | literal parsed right =>
      cases listed
      exact List.nodup_singleton _
  | foreign parsed is_only wrong =>
      cases listed
      exact List.nodup_nil
  | named name whole answered all =>
      cases listed
      exact all.nodup
  | unknown => cases listed
  | cut => cases listed

variable {σ α : Type} {answers : Answering σ}
  {book : String → Except LookupFailure (List (Option RawAddress))}

/-- Every question about a name is answered, and always from the same book. -/
structure Consults (answers : Answering σ)
    (book : String → Except LookupFailure (List (Option RawAddress))) : Prop where
  replies : ∀ host state, ∃ after, answers (.lookup host) state (book host) after
  same : ∀ host state reply after, answers (.lookup host) state reply after → reply = book host

/-- The attempt comes to an end in every state of the host, and always with this outcome. -/
def Gives (answers : Answering σ) (attempt : Attempt α) (outcome : Except Fault α) : Prop :=
  ∀ state, (∃ after, attempt.run.Runs answers state outcome after) ∧
    ∀ given after, attempt.run.Runs answers state given after → given = outcome

def Silent (attempt : Attempt α) : Prop := attempt.Ensures (fun _ => False) fun _ => True

variable {host : String} {only : Family}

theorem gives_pure (value : α) : Gives answers (pure value : Attempt α) (.ok value) :=
  fun state => ⟨⟨state, rfl, rfl⟩, fun _ _ run => run.1⟩

theorem gives_throw (fault : Fault) : Gives answers (throw fault : Attempt α) (.error fault) :=
  fun state => ⟨⟨state, rfl, rfl⟩, fun _ _ run => run.1⟩

/-- Two attempts in a row have one outcome if each of them has. -/
theorem Gives.bind {β : Type} {first : Attempt α} {next : α → Attempt β} {given : Except Fault α}
    {later : Except Fault β} (gives : Gives answers first given)
    (goes_on : ∀ value, given = .ok value → Gives answers (next value) later)
    (stops : ∀ fault, given = .error fault → later = .error fault) :
    Gives answers (first >>= next) later := by
  intro state
  obtain ⟨⟨between, ran⟩, always⟩ := gives state
  cases given with
  | error fault =>
      obtain rfl := stops fault rfl
      refine ⟨⟨between, Attempt.runs_bind.mpr (.inl ⟨fault, ran, rfl⟩)⟩, ?_⟩
      intro outcome after run
      rcases Attempt.runs_bind.mp run with ⟨other, head, rfl⟩ | ⟨value, middle, head, -⟩
      · cases always _ _ head
        rfl
      · cases always _ _ head
  | ok value =>
      obtain ⟨⟨after, rest⟩, -⟩ := goes_on value rfl between
      refine ⟨⟨after, Attempt.runs_bind.mpr (.inr ⟨value, between, ran, rest⟩)⟩, ?_⟩
      intro outcome last run
      rcases Attempt.runs_bind.mp run with ⟨other, head, -⟩ | ⟨other, middle, head, tail⟩
      · cases always _ _ head
      · cases always _ _ head
        exact (goes_on value rfl middle).2 _ _ tail

/-! ## The list of a name -/

/-- The list that a lookup gives when the name service answers from the book. -/
def listing (book : String → Except LookupFailure (List (Option RawAddress))) (host : String)
    (family : Option Family) : Except Fault (List Address) :=
  match Address.parse host with
  | .ok address => .ok (if wanted family address then [address] else [])
  | .error _ =>
      if '\x00' ∈ host.toList then .error (failed host unknownName)
      else match book host with
        | .ok entries => .ok (addresses family entries)
        | .error failure => .error (failed host failure)

theorem gives_addressesOf (consults : Consults answers book) (host : String)
    (internet : family ≠ some .unix) :
    Gives answers (addressesOf host family) (listing book host family) := by
  unfold addressesOf listing
  cases Address.parse host with
  | ok address => exact gives_pure _
  | error fault =>
      dsimp only
      rw [if_neg internet]
      split
      · exact gives_throw _
      · intro state
        constructor
        · obtain ⟨after, answered⟩ := consults.replies host state
          refine ⟨after, _, _, answered, ?_⟩
          cases book host <;> exact ⟨rfl, rfl⟩
        · rintro given after ⟨reply, between, answered, rest⟩
          obtain rfl := consults.same _ _ _ _ answered
          cases found : book host <;> rw [found] at rest <;> exact rest.1

theorem finds_listing (book : String → Except LookupFailure (List (Option RawAddress)))
    (host : String) (family : Option Family) :
    Finds book host family (listing book host family) := by
  unfold listing
  cases read : Address.parse host with
  | ok address =>
      dsimp only
      split
      · rename_i right
        exact .literal read (wanted_iff.mp right)
      · rename_i wrong
        cases family with
        | none => exact absurd rfl wrong
        | some only => exact .foreign read rfl fun same => wrong (by simp [wanted, same])
  | error fault =>
      have name : ∀ address, Address.parse host ≠ .ok address := by
        simp [read]
      dsimp only
      split
      · rename_i inner
        exact .cut name inner
      · rename_i whole
        cases answered : book host with
        | ok entries => exact .named name whole answered (listed_addresses family entries)
        | error failure => exact .unknown name whole answered

/-- Asking for one family is asking for all and leaving out the other addresses. -/
theorem listing_some (book : String → Except LookupFailure (List (Option RawAddress)))
    (host : String) (only : Family) :
    listing book host (some only) =
      (listing book host none).map (List.filter fun address => address.family = only) := by
  unfold listing
  cases Address.parse host with
  | ok address => by_cases right : address.family = only <;> simp [wanted, right, Except.map]
  | error fault =>
      dsimp only
      split
      · rfl
      · cases book host with
        | ok entries => simp only [addresses_some, Except.map]
        | error failure => rfl

theorem resolve_of_internet (internet : only ≠ .unix) : resolve host only =
    (match Address.parseFamily host only with
    | .ok address => pure address
    | .error _ => match Address.parse host with
      | .ok _ => throw (.badAddress host only.name)
      | .error _ => addressesOf host (some only) >>= fun
        | address :: _ => pure address
        | [] => throw (.unresolved host unknownName.code ("no " ++ only.name ++ " address"))) := by
  cases only with
  | inet4 => rfl
  | inet6 => rfl
  | unix => exact absurd rfl internet

/-- One address of a family is the first of the list of that family.  There is none if there
is no list or an empty one. -/
theorem gives_resolve (consults : Consults answers book) (host : String)
    (internet : only ≠ .unix) :
    ∃ one, Gives answers (resolve host only) one ∧
      (∀ address, one = .ok address ↔
        ∃ rest, listing book host (some only) = .ok (address :: rest)) ∧
      ∀ fault, listing book host (some only) = .error fault → one = .error fault := by
  rw [resolve_of_internet internet]
  cases family_read : Address.parseFamily host only with
  | ok address =>
      obtain ⟨read, right⟩ := Address.parseFamily_eq_ok_iff.mp family_read
      refine ⟨_, gives_pure address, ?_⟩
      simp [listing, read, wanted, right, eq_comm]
  | error refusal =>
      have foreign : ∀ address, Address.parse host = .ok address → address.family ≠ only := by
        intro address read right
        rw [Address.parseFamily_eq_ok_iff.mpr ⟨read, right⟩] at family_read
        cases family_read
      cases read : Address.parse host with
      | ok address =>
          refine ⟨_, gives_throw _, ?_⟩
          simp [listing, read, wanted, foreign address read]
      | error fault =>
          have asked := gives_addressesOf consults host (mt Option.some.inj internet)
          cases listed : listing book host (some only) with
          | error fault =>
              rw [listed] at asked
              exact ⟨.error fault, asked.bind (by simp) (by simp), by simp, by simp⟩
          | ok found =>
              rw [listed] at asked
              cases found with
              | nil =>
                  refine ⟨.error (.unresolved host unknownName.code
                    ("no " ++ only.name ++ " address")), asked.bind ?_ (by simp), by simp, by simp⟩
                  rintro value same
                  cases same
                  exact gives_throw _
              | cons address rest =>
                  refine ⟨.ok address, asked.bind ?_ (by simp), by simp, by simp⟩
                  rintro value same
                  cases same
                  exact gives_pure _

/-! ## Literals -/

theorem silent_addressesOf {address : Address} (read : Address.parse host = .ok address)
    (family : Option Family) : Silent (addressesOf host family) := by
  rw [addressesOf, read]
  exact Attempt.ensures_pure trivial

theorem silent_resolve {address : Address} (read : Address.parse host = .ok address)
    (only : Family) : Silent (resolve host only) := by
  unfold resolve
  split
  · exact Attempt.ensures_throw _
  · split
    · exact Attempt.ensures_pure trivial
    · rw [read]
      exact Attempt.ensures_throw _

/-! ## The three lookups -/

/-- Whatever a book of entries says, the lookups of a name agree.  Each of them comes to an end
with one outcome: a list of all addresses, that of one family, and one address of that family.
The lists are as `Finds` says, so they have each shown address once and in the order of its
first entry.  The list of one family is there just when the other one is, and it is what is
left of that without the addresses of other families.  The one address is the first of this
list, and there is none if the list is empty.  No call is made for a text that is read as an
address, in whichever way it is read. -/
theorem name_lookups_agree (consults : Consults answers book) (host : String)
    (internet : only ≠ .unix) :
    (∃ whole part one, Gives answers (addressesOf host none) whole ∧
      Gives answers (addressesOf host (some only)) part ∧ Gives answers (resolve host only) one ∧
      Finds book host none whole ∧ Finds book host (some only) part ∧
      (∀ found, whole = .ok found →
        part = .ok (found.filter fun address => address.family = only) ∧ found.Nodup) ∧
      (∀ fault, whole = .error fault → part = .error fault ∧ one = .error fault) ∧
      (∀ address, one = .ok address ↔ ∃ rest, part = .ok (address :: rest)) ∧
      (part = .ok [] → ∃ fault, one = .error fault)) ∧
    ∀ address, (Address.parse host = .ok address ∨
        ∃ family, Address.parseFamily host family = .ok address) →
      (∀ family, Silent (addressesOf host family)) ∧ ∀ family, Silent (resolve host family) := by
  constructor
  · obtain ⟨one, gives_one, first, failed⟩ := gives_resolve consults host internet
    refine ⟨listing book host none, listing book host (some only), one,
      gives_addressesOf consults host (by simp),
      gives_addressesOf consults host (mt Option.some.inj internet), gives_one,
      finds_listing book host none, finds_listing book host (some only), ?_, ?_, first, ?_⟩
    · intro found listed
      refine ⟨by rw [listing_some, listed]; rfl, (finds_listing book host none).nodup listed⟩
    · intro fault unlisted
      have unlisted_part : listing book host (some only) = .error fault := by
        rw [listing_some, unlisted]
        rfl
      exact ⟨unlisted_part, failed fault unlisted_part⟩
    · intro nothing
      cases one with
      | error fault => exact ⟨fault, rfl⟩
      | ok address =>
          obtain ⟨rest, listed⟩ := (first address).mp rfl
          rw [nothing] at listed
          cases listed
  · intro address literal
    have read : Address.parse host = .ok address := by
      rcases literal with read | ⟨family, read⟩
      · exact read
      · exact (Address.parseFamily_eq_ok_iff.mp read).1
    exact ⟨silent_addressesOf read, silent_resolve read⟩

/-- A host without a state that answers questions about names from a book. -/
def directory (book : String → Except LookupFailure (List (Option RawAddress))) : Answering Unit
  | .lookup host, _, reply, _ => reply = book host
  | _, _, _, _ => True

theorem consults_directory (book : String → Except LookupFailure (List (Option RawAddress))) :
    Consults (directory book) book :=
  ⟨fun _ _ => ⟨(), rfl⟩, fun _ _ _ _ answered => answered⟩

theorem Gives.unique [Inhabited σ] {attempt : Attempt α} {first second : Except Fault α}
    (gives : Gives answers attempt first) (gives_second : Gives answers attempt second) :
    first = second := by
  obtain ⟨after, ran⟩ := (gives default).1
  exact (gives_second default).2 _ _ ran

/-- A book in which every name has an entry without an address, one of a family without
endpoints, and four with three addresses. -/
def mixedBook : String → Except LookupFailure (List (Option RawAddress)) := fun _ =>
  .ok [some (.ofEndpoint (.unset (.v6 ⟨0xfe80, 0, 0, 0, 0, 0, 0, 1⟩))), none, some .unnamed,
    some (.ofEndpoint (.unset (.v4 ⟨10, 0, 0, 2⟩))), some (.ofEndpoint (.unset (.v4 ⟨10, 0, 0, 1⟩))),
    some (.ofEndpoint (.unset (.v4 ⟨10, 0, 0, 2⟩)))]

theorem mixed_lookups_agree :
    Consults (directory mixedBook) mixedBook ∧ Family.inet4 ≠ .unix ∧
    Gives (directory mixedBook) (addressesOf "many.example" none)
      (.ok [.v6 ⟨0xfe80, 0, 0, 0, 0, 0, 0, 1⟩, .v4 ⟨10, 0, 0, 2⟩, .v4 ⟨10, 0, 0, 1⟩]) ∧
    Gives (directory mixedBook) (addressesOf "many.example" (some .inet4))
      (.ok [.v4 ⟨10, 0, 0, 2⟩, .v4 ⟨10, 0, 0, 1⟩]) ∧
    Gives (directory mixedBook) (resolve "many.example" .inet4) (.ok (.v4 ⟨10, 0, 0, 2⟩)) := by
  have consults := consults_directory mixedBook
  have listed : listing mixedBook "many.example" none =
      .ok [.v6 ⟨0xfe80, 0, 0, 0, 0, 0, 0, 1⟩, .v4 ⟨10, 0, 0, 2⟩, .v4 ⟨10, 0, 0, 1⟩] := by
    decide +kernel
  obtain ⟨⟨whole, part, one, gives_whole, gives_part, gives_one, -, -, lists, -, first, -⟩, -⟩ :=
    name_lookups_agree consults "many.example" (by decide : Family.inet4 ≠ .unix)
  obtain rfl : whole = _ :=
    gives_whole.unique (listed ▸ gives_addressesOf consults "many.example" (by simp))
  obtain ⟨rfl, -⟩ := lists _ rfl
  obtain rfl := (first (.v4 ⟨10, 0, 0, 2⟩)).mpr ⟨_, rfl⟩
  exact ⟨consults, by decide, gives_whole, gives_part, gives_one⟩

end SocketReactor.Lookup
