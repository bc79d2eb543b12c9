import SocketReactor.Endpoint.Basic
import SocketReactor.Proofs.Address.Grammar

/-!
# The grammar of endpoints

Endpoints as texts put together from a scheme, a literal and a port.  Reading
takes exactly the texts of the grammar, except that it also takes a plus sign in
front of the port.
-/

namespace SocketReactor.Endpoint

/-- The text is a port: decimal digits and nothing else. -/
def WritesPort (text : List Char) (port : UInt16) : Prop := Numeral.Denotes 10 text port.toNat

def SignsPort (text : List Char) (port : UInt16) : Prop :=
  ∃ digits, WritesPort digits port ∧ (text = digits ∨ text = '+' :: digits)

def WritesScheme (text : List Char) (family : Family) : Prop :=
  text = [] ∨ text = family.name.toList ++ "://".toList

/-- The text is an endpoint: after the scheme a dotted literal or a grouped one in brackets,
then a colon and a port. -/
inductive Spelled (port : List Char → UInt16 → Prop) : List Char → Endpoint → Prop where
  | v4 {scheme host tail : List Char} {ip : Ipv4} {number : UInt16}
      (front : WritesScheme scheme .inet4) (literal : Ipv4.Literal host ip)
      (written : port tail number) :
      Spelled port (scheme ++ (host ++ ':' :: tail)) (new (.v4 ip) number)
  | v6 {scheme host tail : List Char} {ip : Ipv6} {number : UInt16}
      (front : WritesScheme scheme .inet6) (literal : Ipv6.Literal host ip)
      (written : port tail number) :
      Spelled port (scheme ++ ('[' :: host ++ ']' :: ':' :: tail)) (new (.v6 ip) number)

variable {text : String} {rest host tail scheme : List Char} {ip4 : Ipv4} {ip6 : Ipv6}
  {number : UInt16} {address : Address} {endpoint : Endpoint} {invalid : String → Fault} {c : Char}

/-! ## Ports -/

theorem WritesPort.isAlphanum (written : WritesPort tail number) (member : c ∈ tail) :
    c.isAlphanum = true :=
  Numeral.Denotes.isAlphanum written (by decide) member

theorem SignsPort.chars_of_mem (written : SignsPort tail number) (member : c ∈ tail) :
    c.isAlphanum = true ∨ c = '+' := by
  obtain ⟨digits, plain, rfl | rfl⟩ := written
  · exact .inl (plain.isAlphanum member)
  · rcases List.mem_cons.mp member with plus | later
    · exact .inr plus
    · exact .inl (plain.isAlphanum later)

theorem WritesPort.signed (written : WritesPort tail number) : SignsPort tail number :=
  ⟨tail, written, .inl rfl⟩

theorem SignsPort.plain (written : SignsPort tail number) (unsigned : '+' ∉ tail) :
    WritesPort tail number := by
  obtain ⟨digits, plain, rfl | rfl⟩ := written
  · exact plain
  · exact absurd List.mem_cons_self unsigned

theorem head_ne_plus (written : WritesPort tail number) : tail.head? ≠ some '+' := by
  intro plus
  exact absurd (written.isAlphanum (List.mem_of_mem_head? plus)) (by decide)

theorem port?_eq_some_iff : port? tail = some number ↔ SignsPort tail number := by
  have unsigned : port? tail = some number ↔
      WritesPort (if tail.head? = some '+' then tail.tail else tail) number := by
    rw [port?, WritesPort, ← Numeral.read?_eq_some_iff (by decide)]
    cases Numeral.read? 10 (if tail.head? = some '+' then tail.tail else tail) with
    | none => simp
    | some value =>
        simp only [Option.ite_none_right_eq_some, Option.some.injEq]
        constructor
        · rintro ⟨small, rfl⟩
          rw [UInt16.toNat_ofNat_of_lt' small]
        · rintro rfl
          exact ⟨number.toNat_lt, UInt16.ofNat_toNat⟩
  rw [unsigned]
  constructor
  · intro written
    split at written
    · rename_i plus
      obtain ⟨digits, rfl⟩ := List.head?_eq_some_iff.mp plus
      exact ⟨digits, written, .inr rfl⟩
    · exact written.signed
  · rintro ⟨digits, written, rfl | rfl⟩
    · rwa [if_neg (head_ne_plus written)]
    · exact written

/-! ## Literals with ports -/

/-- No literal has a character other than digits, points and colons. -/
theorem not_mem_v4 (literal : Ipv4.Literal host ip4) (foreign : c.isAlphanum = false)
    (other : c ≠ '.') : c ∉ host := by
  intro member
  rcases literal.chars_of_mem member with digit | point
  · rw [foreign] at digit
    cases digit
  · exact other point

theorem not_mem_v6 (literal : Ipv6.Literal host ip6) (foreign : c.isAlphanum = false)
    (other : c ≠ '.') (other' : c ≠ ':') : c ∉ host := by
  intro member
  rcases literal.chars_of_mem member with digit | point | colon
  · rw [foreign] at digit
    cases digit
  · exact other point
  · exact other' colon

theorem parseV4_eq (literal : Ipv4.Literal host ip4) :
    Address.parseV4 (String.ofList host) = .ok (.v4 ip4) := by
  simp only [Address.parseV4, String.toList_ofList, Ipv4.parse?_eq_some_iff.mpr literal]

theorem parseV6_eq (literal : Ipv6.Literal host ip6) :
    Address.parseV6 (String.ofList host) = .ok (.v6 ip6) := by
  simp only [Address.parseV6, String.toList_ofList, Ipv6.parse?_eq_some_iff.mpr literal]

/-- Without a bracket, what stands before the last colon is read as a dotted address. -/
theorem literal_unbracketed (unbracketed : rest.head? ≠ some '[') (invalid : String → Fault) :
    Endpoint.literal rest invalid =
      match Text.splitLast ':' rest with
      | none => .error (invalid "missing port")
      | some (host, tail) =>
          if ':' ∈ host then .error (invalid "IPv6 literal must be bracketed")
          else (Address.parseV4 (String.ofList host)).map (·, tail) := by
  unfold Endpoint.literal
  split
  · exact absurd rfl unbracketed
  · cases Text.splitLast ':' rest with
    | none => rfl
    | some parts =>
        obtain ⟨host, tail⟩ := parts
        simp only [Option.elim_some, bind, Except.bind]
        split
        · rfl
        · cases Address.parseV4 (String.ofList host) <;> rfl

theorem literal_unterminated {inner : List Char} (cut : Text.splitFirst [']'] inner = none)
    (invalid : String → Fault) :
    Endpoint.literal ('[' :: inner) invalid = .error (invalid "unterminated '['") := by
  simp only [Endpoint.literal, cut]
  rfl

/-- After a bracket, what stands before the first closing one is read as an address in groups. -/
theorem literal_bracketed {inner : List Char}
    (cut : Text.splitFirst [']'] inner = some (host, ':' :: tail)) (invalid : String → Fault) :
    Endpoint.literal ('[' :: inner) invalid =
      (Address.parseV6 (String.ofList host)).map (·, tail) := by
  simp only [Endpoint.literal, cut, Option.elim_some, bind, Except.bind]
  cases Address.parseV6 (String.ofList host) <;> rfl

theorem literal_portless {inner back : List Char}
    (cut : Text.splitFirst [']'] inner = some (host, back)) (apart : ∀ tail, back ≠ ':' :: tail)
    (invalid : String → Fault) :
    Endpoint.literal ('[' :: inner) invalid = .error (invalid "missing port") := by
  simp only [Endpoint.literal, cut, Option.elim_some, bind, Except.bind]

theorem literal_v4 (literal : Ipv4.Literal host ip4) (single : ':' ∉ tail)
    (invalid : String → Fault) :
    Endpoint.literal (host ++ ':' :: tail) invalid = .ok (.v4 ip4, tail) := by
  have bracket : '[' ∉ host := not_mem_v4 literal (by decide) (by decide)
  have apart : ':' ∉ host := not_mem_v4 literal (by decide) (by decide)
  have unbracketed : (host ++ ':' :: tail).head? ≠ some '[' := by
    obtain ⟨first, others, rfl⟩ := List.exists_cons_of_ne_nil (List.ne_nil_of_mem literal.dot_mem)
    intro same
    cases same
    exact bracket List.mem_cons_self
  rw [literal_unbracketed unbracketed, Text.splitLast_append single]
  simp only [if_neg apart, parseV4_eq literal, Except.map]

theorem literal_v6 (literal : Ipv6.Literal host ip6) (tail : List Char)
    (invalid : String → Fault) :
    Endpoint.literal ('[' :: host ++ ']' :: ':' :: tail) invalid = .ok (.v6 ip6, tail) := by
  have open_end : ']' ∉ host := not_mem_v6 literal (by decide) (by decide) (by decide)
  have here : Text.splitFirst [']'] (']' :: ':' :: tail) = some ([], ':' :: tail) :=
    Text.splitFirst_separator (List.cons_ne_nil _ _) _
  have cut : Text.splitFirst [']'] (host ++ ']' :: ':' :: tail) = some (host, ':' :: tail) := by
    rw [Text.splitFirst_append open_end, here]
    simp only [Option.map_some, List.append_nil]
  rw [List.cons_append, literal_bracketed cut, parseV6_eq literal]
  rfl

theorem parseV4_cases (host : List Char) :
    (∃ ip, Ipv4.Literal host ip ∧ Address.parseV4 (String.ofList host) = .ok (.v4 ip)) ∨
      ∃ family, Address.parseV4 (String.ofList host) =
        .error (.badAddress (String.ofList host) family) := by
  rw [Address.parseV4, String.toList_ofList]
  cases read : Ipv4.parse? host with
  | none => exact .inr ⟨_, rfl⟩
  | some ip => exact .inl ⟨ip, Ipv4.parse?_eq_some_iff.mp read, rfl⟩

theorem parseV6_cases (host : List Char) :
    (∃ ip, Ipv6.Literal host ip ∧ Address.parseV6 (String.ofList host) = .ok (.v6 ip)) ∨
      ∃ family, Address.parseV6 (String.ofList host) =
        .error (.badAddress (String.ofList host) family) := by
  rw [Address.parseV6, String.toList_ofList]
  cases read : Ipv6.parse? host with
  | none => exact .inr ⟨_, rfl⟩
  | some ip => exact .inl ⟨ip, Ipv6.parse?_eq_some_iff.mp read, rfl⟩

/-- What is read is a literal with a port; what is not is a malformed endpoint or address. -/
theorem literal_cases (rest : List Char) (invalid : String → Fault) :
    (∃ host ip tail, rest = host ++ ':' :: tail ∧ Ipv4.Literal host ip ∧
      Endpoint.literal rest invalid = .ok (.v4 ip, tail)) ∨
    (∃ host ip tail, rest = '[' :: host ++ ']' :: ':' :: tail ∧ Ipv6.Literal host ip ∧
      Endpoint.literal rest invalid = .ok (.v6 ip, tail)) ∨
    (∃ reason, Endpoint.literal rest invalid = .error (invalid reason)) ∨
      ∃ host family, Endpoint.literal rest invalid = .error (.badAddress host family) := by
  by_cases bracketed : rest.head? = some '['
  · obtain ⟨inner, rfl⟩ := List.head?_eq_some_iff.mp bracketed
    cases cut : Text.splitFirst [']'] inner with
    | none => exact .inr (.inr (.inl ⟨_, literal_unterminated cut invalid⟩))
    | some parts =>
        obtain ⟨host, back⟩ := parts
        by_cases colon : ∃ tail, back = ':' :: tail
        · obtain ⟨tail, rfl⟩ := colon
          rw [literal_bracketed cut]
          rcases parseV6_cases host with ⟨ip, literal, read⟩ | ⟨family, refused⟩
          · rw [read]
            refine .inr (.inl ⟨host, ip, tail, ?_, literal, rfl⟩)
            rw [Text.eq_append_of_splitFirst cut]
            simp
          · rw [refused]
            exact .inr (.inr (.inr ⟨_, family, rfl⟩))
        · have apart : ∀ tail, back ≠ ':' :: tail := fun tail same => colon ⟨tail, same⟩
          exact .inr (.inr (.inl ⟨_, literal_portless cut apart invalid⟩))
  · rw [literal_unbracketed bracketed]
    cases cut : Text.splitLast ':' rest with
    | none => exact .inr (.inr (.inl ⟨_, rfl⟩))
    | some parts =>
        obtain ⟨host, tail⟩ := parts
        have whole := Text.eq_append_of_splitLast cut
        dsimp only
        split
        · exact .inr (.inr (.inl ⟨_, rfl⟩))
        · rcases parseV4_cases host with ⟨ip, literal, read⟩ | ⟨family, refused⟩
          · rw [read]
            exact .inl ⟨host, ip, tail, whole, literal, rfl⟩
          · rw [refused]
            exact .inr (.inr (.inr ⟨_, family, rfl⟩))

/-! ## Endpoints -/

theorem mark_eq : "://".toList = [':', '/', '/'] := by decide

theorem splitFirst_scheme (family : Family) (rest : List Char) :
    Text.splitFirst "://".toList (family.name.toList ++ "://".toList ++ rest) =
      some (family.name.toList, rest) := by
  have apart : ':' ∉ family.name.toList := by cases family <;> decide
  have here : Text.splitFirst [':', '/', '/'] ([':', '/', '/'] ++ rest) = some ([], rest) :=
    Text.splitFirst_separator (List.cons_ne_nil _ _) rest
  rw [mark_eq, List.append_assoc, Text.splitFirst_append apart, here]
  simp

def assembled (text : String) (scheme : Option String) (parts : Address × List Char) :
    Except Fault Endpoint :=
  if scheme.all (· = parts.1.family.name) then
    match port? parts.2 with
    | some port => .ok (new parts.1 port)
    | none => .error (.badEndpoint text "invalid port")
  else .error (.badEndpoint text "scheme does not match address family")

theorem parse_of_uncut (cut : Text.splitFirst "://".toList text.toList = none) :
    parse text =
      (Endpoint.literal text.toList (Fault.badEndpoint text)).bind (assembled text none) := by
  simp only [parse, cut]
  rfl

theorem parse_of_cut (cut : Text.splitFirst "://".toList text.toList = some (scheme, rest)) :
    parse text = (Endpoint.literal rest (Fault.badEndpoint text)).bind
      (assembled text (some (String.ofList scheme))) := by
  simp only [parse, cut]
  rfl

theorem assembled_eq_ok_iff {named : Option String} :
    assembled text named (address, tail) = .ok endpoint ↔
      named.all (· = address.family.name) = true ∧
        ∃ number, SignsPort tail number ∧ endpoint = new address number := by
  rw [assembled]
  split
  · rename_i fits
    cases given : port? tail with
    | none =>
        have unsigned : ∀ number, ¬SignsPort tail number := by
          intro number written
          rw [← port?_eq_some_iff, given] at written
          cases written
        simp [unsigned]
    | some number =>
        have written := port?_eq_some_iff.mp given
        constructor
        · intro same
          cases same
          exact ⟨fits, number, written, rfl⟩
        · rintro ⟨-, other, written', rfl⟩
          cases given.symm.trans (port?_eq_some_iff.mpr written')
          rfl
  · rename_i unfit
    simp [unfit]

theorem fault_of_assembled {named : Option String} {parts : Address × List Char} {fault : Fault}
    (refused : assembled text named parts = .error fault) :
    ∃ reason, fault = .badEndpoint text reason := by
  unfold assembled at refused
  split at refused
  · split at refused <;> cases refused
    exact ⟨_, rfl⟩
  · cases refused
    exact ⟨_, rfl⟩

/-- A text is read as what follows its scheme, if it has one. -/
theorem exists_front (text : String) : ∃ named front rest, text.toList = front ++ rest ∧
    parse text = (Endpoint.literal rest (Fault.badEndpoint text)).bind (assembled text named) ∧
    ∀ family : Family, named.all (· = family.name) = true → WritesScheme front family := by
  cases cut : Text.splitFirst "://".toList text.toList with
  | none => exact ⟨none, [], text.toList, rfl, parse_of_uncut cut, fun _ _ => .inl rfl⟩
  | some halves =>
      obtain ⟨scheme, rest⟩ := halves
      refine ⟨some (String.ofList scheme), scheme ++ "://".toList, rest,
        Text.eq_append_of_splitFirst cut, parse_of_cut cut, ?_⟩
      intro family fits
      have named : String.ofList scheme = family.name := by simpa using fits
      have chars := congrArg String.toList named
      rw [String.toList_ofList] at chars
      exact .inr (congrArg (· ++ "://".toList) chars)

/-- What follows a fitting scheme decides. -/
theorem parse_of_front (front : WritesScheme scheme address.family) (unmarked : '/' ∉ rest)
    (whole : text.toList = scheme ++ rest)
    (read : Endpoint.literal rest (Fault.badEndpoint text) = .ok (address, tail))
    (written : SignsPort tail number) : parse text = .ok (new address number) := by
  rcases front with rfl | rfl
  · rw [List.nil_append] at whole
    have uncut : Text.splitFirst "://".toList text.toList = none := by
      rw [whole]
      exact Text.splitFirst_eq_none (by rw [mark_eq]; decide) unmarked
    rw [parse_of_uncut uncut, whole, read]
    exact assembled_eq_ok_iff.mpr ⟨rfl, number, written, rfl⟩
  · have cut := splitFirst_scheme address.family rest
    rw [← whole] at cut
    rw [parse_of_cut cut, read, String.ofList_toList]
    exact assembled_eq_ok_iff.mpr ⟨by simp, number, written, rfl⟩

/-- Every text of the grammar is read, also with a sign. -/
theorem parse_of_spelled (spelled : Spelled SignsPort text.toList endpoint) :
    parse text = .ok endpoint := by
  generalize whole : text.toList = chars at spelled
  cases spelled with
  | @v4 scheme host tail ip number front literal written =>
      have free : ∀ c, c.isAlphanum = false → c ≠ '.' → c ≠ '+' → c ∉ host ∧ c ∉ tail := by
        intro c foreign point plus
        refine ⟨not_mem_v4 literal foreign point, fun member => ?_⟩
        rcases written.chars_of_mem member with digit | sign
        · rw [foreign] at digit
          cases digit
        · exact plus sign
      have slash := free '/' (by decide) (by decide) (by decide)
      have colon := free ':' (by decide) (by decide) (by decide)
      refine parse_of_front front ?_ whole (literal_v4 literal colon.2 _) written
      simp [slash.1, slash.2]
  | @v6 scheme host tail ip number front literal written =>
      have host_free : '/' ∉ host := not_mem_v6 literal (by decide) (by decide) (by decide)
      have tail_free : '/' ∉ tail := by
        intro member
        rcases written.chars_of_mem member with digit | sign
        · exact absurd digit (by decide)
        · exact absurd sign (by decide)
      refine parse_of_front front ?_ whole (literal_v6 literal tail _) written
      simp [host_free, tail_free]

/-- Every text that is read is one of the grammar, up to a sign. -/
theorem spelled_of_parse (read : parse text = .ok endpoint) :
    Spelled SignsPort text.toList endpoint := by
  obtain ⟨named, front, rest, whole, eq, fits⟩ := exists_front text
  rw [eq] at read
  rw [whole]
  rcases literal_cases rest (Fault.badEndpoint text) with ⟨host, ip, tail, rfl, literal, found⟩ |
    ⟨host, ip, tail, rfl, literal, found⟩ | ⟨reason, refused⟩ | ⟨host, family, refused⟩
  · rw [found] at read
    obtain ⟨named, number, written, rfl⟩ := assembled_eq_ok_iff.mp read
    exact .v4 (fits .inet4 named) literal written
  · rw [found] at read
    obtain ⟨named, number, written, rfl⟩ := assembled_eq_ok_iff.mp read
    exact .v6 (fits .inet6 named) literal written
  · rw [refused] at read
    cases read
  · rw [refused] at read
    cases read

theorem parse_eq_ok_iff : parse text = .ok endpoint ↔ Spelled SignsPort text.toList endpoint :=
  ⟨spelled_of_parse, parse_of_spelled⟩

/-- What is not read is a malformed endpoint or address. -/
theorem fault_of_parse {fault : Fault} (refused : parse text = .error fault) :
    (∃ reason, fault = .badEndpoint text reason) ∨
      ∃ host family, fault = .badAddress host family := by
  obtain ⟨named, front, rest, whole, eq, fits⟩ := exists_front text
  rw [eq] at refused
  rcases literal_cases rest (Fault.badEndpoint text) with ⟨host, ip, tail, -, -, found⟩ |
    ⟨host, ip, tail, -, -, found⟩ | ⟨reason, stopped⟩ | ⟨host, family, stopped⟩
  · rw [found] at refused
    exact .inl (fault_of_assembled refused)
  · rw [found] at refused
    exact .inl (fault_of_assembled refused)
  · rw [stopped] at refused
    cases refused
    exact .inl ⟨reason, rfl⟩
  · rw [stopped] at refused
    cases refused
    exact .inr ⟨host, family, rfl⟩

theorem Spelled.signed {chars : List Char} (spelled : Spelled WritesPort chars endpoint) :
    Spelled SignsPort chars endpoint := by
  cases spelled with
  | v4 front literal written => exact .v4 front literal written.signed
  | v6 front literal written => exact .v6 front literal written.signed

/-- A text of the grammar has a sign exactly if its port does. -/
theorem Spelled.plain_iff {chars : List Char} (spelled : Spelled SignsPort chars endpoint) :
    Spelled WritesPort chars endpoint ↔ '+' ∉ chars := by
  constructor
  · have free : ∀ {front : List Char} {family : Family},
        WritesScheme front family → '+' ∉ front := by
      rintro front family (rfl | rfl)
      · exact List.not_mem_nil
      · cases family <;> decide
    have unsigned : ∀ {tail : List Char} {number : UInt16}, WritesPort tail number → '+' ∉ tail :=
      fun written member => absurd (written.isAlphanum member) (by decide)
    rintro (⟨front, literal, written⟩ | ⟨front, literal, written⟩)
    · have host := not_mem_v4 (c := '+') literal (by decide) (by decide)
      simp [free front, host, unsigned written]
    · have host := not_mem_v6 (c := '+') literal (by decide) (by decide) (by decide)
      simp [free front, host, unsigned written]
  · intro unsigned
    cases spelled with
    | v4 front literal written =>
        simp only [List.mem_append, List.mem_cons, not_or] at unsigned
        exact .v4 front literal (written.plain unsigned.2.2.2)
    | v6 front literal written =>
        simp only [List.mem_append, List.mem_cons, not_or] at unsigned
        exact .v6 front literal (written.plain unsigned.2.2.2.2)

/-- Of every text: it is read as an endpoint exactly if it is one of the grammar, up to a plus
sign in front of the port; it is one of the grammar without that freedom exactly if it is
read and has no sign; and what is not read is a malformed endpoint or address. -/
theorem grammar_decides_parse (text : String) :
    (∀ endpoint, parse text = .ok endpoint ↔ Spelled SignsPort text.toList endpoint) ∧
    (∀ endpoint, Spelled WritesPort text.toList endpoint ↔
      parse text = .ok endpoint ∧ '+' ∉ text.toList) ∧
    ((∃ endpoint, parse text = .ok endpoint) ∨
      (∃ reason, parse text = .error (.badEndpoint text reason)) ∨
      ∃ host family, parse text = .error (.badAddress host family)) := by
  refine ⟨fun _ => parse_eq_ok_iff, ?_, ?_⟩
  · intro endpoint
    rw [parse_eq_ok_iff]
    constructor
    · intro plain
      exact ⟨plain.signed, plain.signed.plain_iff.mp plain⟩
    · rintro ⟨spelled, unsigned⟩
      exact spelled.plain_iff.mpr unsigned
  · cases read : parse text with
    | ok endpoint => exact .inl ⟨endpoint, rfl⟩
    | error fault =>
        rcases fault_of_parse read with ⟨reason, rfl⟩ | ⟨host, family, rfl⟩
        · exact .inr (.inl ⟨reason, rfl⟩)
        · exact .inr (.inr ⟨host, family, rfl⟩)

/-- A port with a sign is read, although the grammar has none. -/
theorem signed_port_is_read :
    parse "127.0.0.1:+80" = .ok (new .loopbackV4 80) ∧
      ¬Spelled WritesPort "127.0.0.1:+80".toList (new .loopbackV4 80) := by
  have read : parse "127.0.0.1:+80" = .ok (new .loopbackV4 80) := by rfl
  refine ⟨read, fun spelled => ?_⟩
  exact (((grammar_decides_parse _).2.1 _).mp spelled).2 (by decide)

end SocketReactor.Endpoint
