import Dipecs.Device.ContentPrefetcher
import Dipecs.Library.Machine
import Dipecs.Library.Subnet

/-! What the prefetcher connects to: every URL it opens passed the validation, along every
chain of redirects a server may answer. -/

namespace Dipecs.Device

open Dipecs.Library

/-! ### Reserved blocks -/

def wildcardBlocks : List Subnet := [⟨4, [0, 0, 0, 0], 32⟩, ⟨16, List.replicate 16 0, 128⟩]

def loopbackBlocks : List Subnet := [⟨4, [127], 8⟩, ⟨16, List.replicate 15 0 ++ [1], 128⟩]

def linkLocalBlocks : List Subnet := [⟨4, [169, 254], 16⟩, ⟨16, [0xfe, 0x80], 10⟩]

def siteLocalBlocks : List Subnet :=
  [⟨4, [10], 8⟩, ⟨4, [172, 16], 12⟩, ⟨4, [192, 168], 16⟩, ⟨16, [0xfe, 0xc0], 10⟩]

def multicastBlocks : List Subnet := [⟨4, [224], 4⟩, ⟨16, [0xff], 8⟩]

def uniqueLocalBlocks : List Subnet := [⟨16, [0xfc], 7⟩]

def InBlocks (blocks : List Subnet) (a : InetAddress) : Prop :=
  ∃ s ∈ blocks, s.Contains a.address

instance (blocks : List Subnet) (a : InetAddress) : Decidable (InBlocks blocks a) :=
  inferInstanceAs (Decidable (∃ s ∈ blocks, s.Contains a.address))

def reservedBlocks : List Subnet :=
  wildcardBlocks ++ loopbackBlocks ++ linkLocalBlocks ++ siteLocalBlocks ++ multicastBlocks ++
    uniqueLocalBlocks

theorem InBlocks.append_iff {blocks more : List Subnet} {a : InetAddress} :
    InBlocks (blocks ++ more) a ↔ InBlocks blocks a ∨ InBlocks more a := by
  simp only [InBlocks, List.mem_append, or_and_right, exists_or]

section
variable (a : InetAddress)

theorem InetAddress.ipCases {P : InetAddress → Prop}
    (ipv4 : ∀ b c d e (h : [b, c, d, e].length = 4 ∨ [b, c, d, e].length = 16),
      P ⟨[b, c, d, e], h⟩)
    (ipv6 : ∀ b c d e f rest
      (h : (b :: c :: d :: e :: f :: rest).length = 4 ∨
        (b :: c :: d :: e :: f :: rest).length = 16), rest.length = 11 →
      P ⟨b :: c :: d :: e :: f :: rest, h⟩) (a : InetAddress) : P a := by
  obtain ⟨address, h⟩ := a
  match address, h with
  | [b, c, d, e], h => exact ipv4 b c d e h
  | b :: c :: d :: e :: f :: rest, h => exact ipv6 b c d e f rest h (by simp at h; omega)
  | [], h => simp at h
  | [_], h => simp at h
  | [_, _], h => simp at h
  | [_, _, _], h => simp at h

theorem eq_iff_toNat {b c : UInt8} : b = c ↔ b.toNat = c.toNat := UInt8.toNat_inj.symm

theorem and_mask (b : UInt8) :
    (b &&& 0xf0 = 16 ↔ b.toNat / 16 = 1) ∧ (b &&& 0xf0 = 0xe0 ↔ b.toNat / 16 = 14) ∧
      (b &&& 0xc0 = 0x80 ↔ b.toNat / 64 = 2) ∧ (b &&& 0xc0 = 0xc0 ↔ b.toNat / 64 = 3) ∧
        (b &&& 0xfe = 0xfc ↔ b.toNat / 2 = 126) := by
  have hall : ∀ n : Fin 256,
      ((UInt8.ofNat n &&& 0xf0 = 16 ↔ n.val / 16 = 1) ∧
        (UInt8.ofNat n &&& 0xf0 = 0xe0 ↔ n.val / 16 = 14) ∧
        (UInt8.ofNat n &&& 0xc0 = 0x80 ↔ n.val / 64 = 2) ∧
        (UInt8.ofNat n &&& 0xc0 = 0xc0 ↔ n.val / 64 = 3) ∧
        (UInt8.ofNat n &&& 0xfe = 0xfc ↔ n.val / 2 = 126)) := by
    decide +kernel
  simpa using hall ⟨b.toNat, b.toNat_lt⟩

theorem isAnyLocalAddress_iff : a.isAnyLocalAddress = true ↔ InBlocks wildcardBlocks a := by
  have hsplit : ∀ n : Nat, n = 4 ∨ n = 16 → (n = 4 ∧ ¬n = 16) ∨ (n = 16 ∧ ¬n = 4) := by omega
  rw [InetAddress.isAnyLocalAddress, ← bigEndian_eq_zero_iff]
  rcases hsplit _ a.size with ⟨h, h'⟩ | ⟨h, h'⟩ <;>
    simp [InBlocks, wildcardBlocks, Subnet.Contains, h, List.take_of_length_le, bigEndian]

theorem isLoopbackAddress_iff : a.isLoopbackAddress = true ↔ InBlocks loopbackBlocks a := by
  induction a using InetAddress.ipCases with
  | ipv4 b c d e h =>
    simp [InetAddress.isLoopbackAddress, InBlocks, loopbackBlocks, Subnet.Contains, eq_iff_toNat]
  | ipv6 b c d e f rest h hrest =>
    have hone := bigEndian_eq_one_iff (b :: c :: d :: e :: f :: rest)
    simp only [InetAddress.isLoopbackAddress, ← hone]
    simp [InBlocks, loopbackBlocks, Subnet.Contains, hrest, List.take_of_length_le, bigEndian]

theorem isLinkLocalAddress_iff : a.isLinkLocalAddress = true ↔ InBlocks linkLocalBlocks a := by
  induction a using InetAddress.ipCases with
  | ipv4 b c d e h =>
    have hcode : (InetAddress.mk [b, c, d, e] h).isLinkLocalAddress = true ↔
        b.toNat = 169 ∧ c.toNat = 254 := by
      simp [InetAddress.isLinkLocalAddress, eq_iff_toNat]
    have hblocks : InBlocks linkLocalBlocks ⟨[b, c, d, e], h⟩ ↔
        b.toNat * 256 + c.toNat = 43518 := by
      simp [InBlocks, linkLocalBlocks, Subnet.Contains]
    have hc := c.toNat_lt
    rw [hcode, hblocks]
    omega
  | ipv6 b c d e f rest h hrest =>
    have hcode : (InetAddress.mk (b :: c :: d :: e :: f :: rest) h).isLinkLocalAddress = true ↔
        b = 254 ∧ c.toNat / 64 = 2 := by
      simp [InetAddress.isLinkLocalAddress, (and_mask c).2.2.1]
    have hblocks : InBlocks linkLocalBlocks ⟨b :: c :: d :: e :: f :: rest, h⟩ ↔
        (b.toNat * 256 + c.toNat) / 64 = 1018 := by
      simp [InBlocks, linkLocalBlocks, Subnet.Contains, hrest]
    have hc := c.toNat_lt
    rw [hcode, hblocks, eq_iff_toNat]
    change b.toNat = 254 ∧ _ ↔ _
    omega

theorem isSiteLocalAddress_iff : a.isSiteLocalAddress = true ↔ InBlocks siteLocalBlocks a := by
  induction a using InetAddress.ipCases with
  | ipv4 b c d e h =>
    have hcode : (InetAddress.mk [b, c, d, e] h).isSiteLocalAddress = true ↔
        (b.toNat = 10 ∨ b.toNat = 172 ∧ c &&& 0xf0 = 16) ∨ b.toNat = 192 ∧ c.toNat = 168 := by
      simp [InetAddress.isSiteLocalAddress, eq_iff_toNat]
    have hblocks : InBlocks siteLocalBlocks ⟨[b, c, d, e], h⟩ ↔
        b.toNat = 10 ∨ (b.toNat * 256 + c.toNat) / 16 = 2753 ∨
          b.toNat * 256 + c.toNat = 49320 := by
      simp [InBlocks, siteLocalBlocks, Subnet.Contains]
    have hc := c.toNat_lt
    rw [hcode, hblocks, (and_mask c).1]
    omega
  | ipv6 b c d e f rest h hrest =>
    have hcode : (InetAddress.mk (b :: c :: d :: e :: f :: rest) h).isSiteLocalAddress = true ↔
        b = 254 ∧ c.toNat / 64 = 3 := by
      simp [InetAddress.isSiteLocalAddress, (and_mask c).2.2.2.1]
    have hblocks : InBlocks siteLocalBlocks ⟨b :: c :: d :: e :: f :: rest, h⟩ ↔
        (b.toNat * 256 + c.toNat) / 64 = 1019 := by
      simp [InBlocks, siteLocalBlocks, Subnet.Contains, hrest]
    have hc := c.toNat_lt
    rw [hcode, hblocks, eq_iff_toNat]
    change b.toNat = 254 ∧ _ ↔ _
    omega

theorem isMulticastAddress_iff : a.isMulticastAddress = true ↔ InBlocks multicastBlocks a := by
  induction a using InetAddress.ipCases with
  | ipv4 b c d e h =>
    simp [InetAddress.isMulticastAddress, InBlocks, multicastBlocks, Subnet.Contains,
      (and_mask b).2.1]
  | ipv6 b c d e f rest h hrest =>
    simp [InetAddress.isMulticastAddress, InBlocks, multicastBlocks, Subnet.Contains, hrest,
      eq_iff_toNat]

theorem uniqueLocalIpv6_iff :
    (a.address.length == 16 && (a.address.headD 0 &&& 0xfe) == 0xfc) = true ↔
      InBlocks uniqueLocalBlocks a := by
  induction a using InetAddress.ipCases with
  | ipv4 b c d e h => simp [InBlocks, uniqueLocalBlocks, Subnet.Contains]
  | ipv6 b c d e f rest h hrest =>
    simp [InBlocks, uniqueLocalBlocks, Subnet.Contains, hrest, (and_mask b).2.2.2.2]

theorem isBlockedAddress_iff :
    AccessibleContentPrefetcher.isBlockedAddress a = true ↔ InBlocks reservedBlocks a := by
  simp only [AccessibleContentPrefetcher.isBlockedAddress, Bool.or_eq_true, isAnyLocalAddress_iff,
    isLoopbackAddress_iff, isLinkLocalAddress_iff, isSiteLocalAddress_iff, isMulticastAddress_iff,
    uniqueLocalIpv6_iff, reservedBlocks, InBlocks.append_iff]

end

namespace AccessibleContentPrefetcher

variable {Url : Type} {net : Net Url}

/-- Where the guard lets the connection with this number go. -/
structure Safe (net : Net Url) (hop : Nat) (url : Url) : Prop where
  https : net.protocol url = kstr "https"
  shown : isNotBlank (hostName net url) = true
  not_localhost : hostName net url ≠ kstr "localhost"
  not_under_localhost : ¬kstr ".localhost" <:+ hostName net url
  not_reserved : ∀ a ∈ net.connectsTo hop ((net.host url).getD []), ¬InBlocks reservedBlocks a

def SameAddresses (net : Net Url) : Prop :=
  ∀ hop host addresses, net.getAllByName hop (net.lowercase host) = .ok addresses →
    net.connectsTo hop host = addresses

def Event.isOpened : Event Url → Bool
  | .opened _ _ => true
  | _ => false

def Event.isBodyRead : Event Url → Bool
  | .bodyRead _ _ _ => true
  | _ => false

def lastOpened (events : List (Event Url)) : Option (Event Url) :=
  (events.filter Event.isOpened).getLast?

/-- The response is the answer of the last connection opened, and no redirect. -/
structure Final (net : Net Url) (events : List (Event Url)) (hop : Nat) (url : Url)
    (code : Int) : Prop where
  last : lastOpened events = some (.opened hop url)
  answered : ∃ response, net.respond hop url = .ok response ∧ response.code = code
  not_redirect : ¬(300 ≤ code ∧ code ≤ 399)

/-- What the guard keeps to: every connection is safe, there are few, and the only body
that is read is that of the last one. -/
structure Guarded (net : Net Url) (events : List (Event Url)) : Prop where
  safe : ∀ hop url, .opened hop url ∈ events → Safe net hop url
  few : events.countP Event.isOpened ≤ maxRedirects + 1
  final : EachAfter (fun before e => ∀ hop url code, e = .bodyRead hop url code →
    Final net before hop url code) events
  nothing_after : EachAfter (fun before e => e.isOpened = true →
    ∀ read ∈ before, read.isBodyRead = false) events

/-! ### Validation -/

theorem isBlockedHostName_eq_false_iff {host : KString} :
    isBlockedHostName host = false ↔ host ≠ kstr "localhost" ∧ ¬kstr ".localhost" <:+ host := by
  rw [isBlockedHostName, Bool.or_eq_false_iff, beq_eq_false_iff_ne, ← List.isSuffixOf_iff_suffix,
    Bool.not_eq_true]

theorem checkAddresses_eq_ok {hop : Nat} {host : KString}
    (h : checkAddresses net hop host true = .ok ()) :
    ∃ addresses, net.getAllByName hop host = .ok addresses ∧
      ∀ a ∈ addresses, ¬InBlocks reservedBlocks a := by
  simp only [checkAddresses, if_true] at h
  cases haddresses : net.getAllByName hop host with
  | error message => simp [haddresses] at h
  | ok addresses =>
    refine ⟨addresses, rfl, fun a ha hreserved => ?_⟩
    have hany : addresses.any isBlockedAddress = true :=
      List.any_eq_true.mpr ⟨a, ha, (isBlockedAddress_iff a).mpr hreserved⟩
    simp only [haddresses, hany, if_true] at h
    split at h <;> cases h

theorem validateHttpsUrl_eq_ok {hop : Nat} {rawUrl : KString} {resolveHost : Bool} {url : Url}
    (h : validateHttpsUrl net hop rawUrl resolveHost = .ok url) :
    net.protocol url = kstr "https" ∧ isNotBlank (hostName net url) = true ∧
      isBlockedHostName (hostName net url) = false ∧
      checkAddresses net hop (hostName net url) resolveHost = .ok () := by
  rw [validateHttpsUrl] at h
  cases hparse : net.parseUrl rawUrl with
  | error message => simp [hparse] at h
  | ok parsed =>
    simp only [hparse] at h
    by_cases hprotocol : net.protocol parsed = kstr "https"
    · cases hshown : isNotBlank (hostName net parsed) with
      | false => simp [hprotocol, hshown] at h
      | true =>
        cases hname : isBlockedHostName (hostName net parsed) with
        | true => simp [hprotocol, hshown, hname] at h
        | false =>
          cases hcheck : checkAddresses net hop (hostName net parsed) resolveHost with
          | error message => simp [hprotocol, hshown, hname, hcheck, Except.map] at h
          | ok u =>
            obtain rfl : parsed = url := by
              simpa [hprotocol, hshown, hname, hcheck, Except.map] using h
            exact ⟨hprotocol, hshown, hname, hcheck⟩
    · simp [hprotocol] at h

theorem validateHttpsUrl_safe (hsame : SameAddresses net) {hop : Nat} {rawUrl : KString}
    {url : Url} (h : validateHttpsUrl net hop rawUrl true = .ok url) : Safe net hop url := by
  obtain ⟨hprotocol, hshown, hname, hcheck⟩ := validateHttpsUrl_eq_ok h
  obtain ⟨hlocal, hunder⟩ := isBlockedHostName_eq_false_iff.mp hname
  obtain ⟨addresses, hresolved, hpublic⟩ := checkAddresses_eq_ok hcheck
  refine ⟨hprotocol, hshown, hlocal, hunder, ?_⟩
  cases hhost : net.host url with
  | none => simp [hostName, hhost, isNotBlank] at hshown
  | some host =>
    rw [hostName, hhost] at hresolved
    rw [Option.getD_some, hsame hop host addresses hresolved]
    exact hpublic

/-! ### Redirects -/

/-- What following redirects comes to within a number of rounds. -/
structure Chain (net : Net Url) (rounds : Nat) (o : Outcome Url (Connection Url)) : Prop where
  safe : ∀ hop url, .opened hop url ∈ o.1 → Safe net hop url
  few : o.1.countP Event.isOpened ≤ rounds
  unread : ∀ e ∈ o.1, e.isBodyRead = false
  final : ∀ c, o.2 = .ok c → Final net o.1 c.hop c.url c.response.code

theorem Chain.failed {rounds hop : Nat} {url : Url} {more : List (Event Url)} {message : String}
    (hsafe : Safe net hop url) (hmore : ∀ e ∈ more, e = .disconnected url) :
    Chain net (rounds + 1) (.opened hop url :: more, .error message) where
  safe hop' url' h := by
    rcases List.mem_cons.mp h with h | h
    · cases h
      exact hsafe
    · cases hmore _ h
  few := by
    have hquiet : more.countP Event.isOpened = 0 :=
      List.countP_eq_zero.mpr fun e he => by simp [hmore e he, Event.isOpened]
    rw [List.countP_cons_of_pos rfl, hquiet]
    omega
  unread e h := by
    rcases List.mem_cons.mp h with rfl | h
    · rfl
    · rw [hmore e h]
      rfl
  final c h := by cases h

theorem Chain.answered {rounds hop : Nat} {url : Url} {response : Response}
    (hsafe : Safe net hop url) (hanswer : net.respond hop url = .ok response)
    (hcode : ¬(300 ≤ response.code ∧ response.code ≤ 399)) :
    Chain net (rounds + 1) ([.opened hop url], .ok ⟨hop, url, response⟩) where
  safe hop' url' h := by
    cases List.mem_singleton.mp h
    exact hsafe
  few := Nat.le_add_left 1 rounds
  unread e h := by
    rw [List.mem_singleton.mp h]
    rfl
  final c h := by
    cases h
    exact ⟨rfl, ⟨response, hanswer, rfl⟩, hcode⟩

theorem Chain.redirected {rounds hop : Nat} {url : Url} {o : Outcome Url (Connection Url)}
    (hsafe : Safe net hop url) (h : Chain net rounds o) :
    Chain net (rounds + 1) (.opened hop url :: .disconnected url :: o.1, o.2) where
  safe hop' url' hmem := by
    rcases List.mem_cons.mp hmem with hmem | hmem
    · cases hmem
      exact hsafe
    · rcases List.mem_cons.mp hmem with hmem | hmem
      · cases hmem
      · exact h.safe hop' url' hmem
  few := by
    have hquiet : ¬(Event.disconnected url).isOpened = true := Bool.false_ne_true
    rw [List.countP_cons_of_pos rfl, List.countP_cons_of_neg hquiet]
    exact Nat.succ_le_succ h.few
  unread e hmem := by
    rcases List.mem_cons.mp hmem with rfl | hmem
    · rfl
    · rcases List.mem_cons.mp hmem with rfl | hmem
      · rfl
      · exact h.unread e hmem
  final c hc := by
    obtain ⟨hlast, hanswered, hcode⟩ := h.final c hc
    refine ⟨?_, hanswered, hcode⟩
    change (Event.opened hop url :: o.1.filter Event.isOpened).getLast? = _
    rw [List.getLast?_cons, show (o.1.filter Event.isOpened).getLast? = _ from hlast]
    rfl

theorem followRedirects_chain (hsame : SameAddresses net) (rounds redirectCount : Nat) {url : Url}
    (hsafe : Safe net redirectCount url) :
    Chain net rounds (followRedirects net rounds redirectCount url) := by
  induction rounds generalizing redirectCount url with
  | zero => exact ⟨by simp [followRedirects], Nat.le_refl 0, by simp [followRedirects], nofun⟩
  | succ rounds ih =>
    rw [followRedirects]
    cases hanswer : net.respond redirectCount url with
    | error message => exact .failed hsafe (by simp)
    | ok response =>
      dsimp only
      split
      · exact .answered hsafe hanswer ‹_›
      · split
        · exact .failed hsafe (by simp)
        · cases response.location with
          | none => exact .failed hsafe (by simp)
          | some location =>
            dsimp only
            cases hnext : (net.parseRelative url location).bind fun next =>
                validateHttpsUrl net (redirectCount + 1) (net.toString next) true with
            | error message => exact .failed hsafe (by simp)
            | ok next =>
              cases hrelative : net.parseRelative url location with
              | error message => simp [hrelative, Except.bind] at hnext
              | ok relative =>
                rw [hrelative] at hnext
                exact .redirected hsafe (ih (redirectCount + 1) (validateHttpsUrl_safe hsame hnext))

theorem openValidatedConnection_chain (hsame : SameAddresses net) (rawUrl : KString) :
    Chain net (maxRedirects + 1) (openValidatedConnection net rawUrl) := by
  rw [openValidatedConnection]
  cases hvalid : validateHttpsUrl net 0 rawUrl true with
  | error message => exact ⟨by simp, Nat.zero_le _, by simp, nofun⟩
  | ok url => exact followRedirects_chain hsame _ 0 (validateHttpsUrl_safe hsame hvalid)

/-! ### Prefetches -/

theorem Guarded.of_unread {events : List (Event Url)}
    (hsafe : ∀ hop url, .opened hop url ∈ events → Safe net hop url)
    (hfew : events.countP Event.isOpened ≤ maxRedirects + 1)
    (hunread : ∀ e ∈ events, e.isBodyRead = false) : Guarded net events where
  safe := hsafe
  few := hfew
  final before e after h hop url code he := by
    have hread := hunread e (by simp [h])
    rw [he] at hread
    cases hread
  nothing_after before e after h _ read hmem := hunread read (by simp [h, hmem])

theorem Guarded.concat {events : List (Event Url)} {e : Event Url} (h : Guarded net events)
    (hquiet : e.isOpened = false)
    (hfinal : ∀ hop url code, e = .bodyRead hop url code → Final net events hop url code) :
    Guarded net (events ++ [e]) where
  safe hop url hmem := by
    rcases List.mem_append.mp hmem with hmem | hmem
    · exact h.safe hop url hmem
    · rw [← List.mem_singleton.mp hmem] at hquiet
      cases hquiet
  few := by
    have hnone : ¬e.isOpened = true := by simp [hquiet]
    rw [List.countP_append, List.countP_singleton, if_neg hnone]
    exact h.few
  final := h.final.concat hfinal
  nothing_after := h.nothing_after.concat fun hopen => by simp [hquiet] at hopen

theorem Guarded.recorded {events : List (Event Url)} (h : Guarded net events)
    (eventType message : String) : Guarded net (events ++ [.recorded eventType message]) :=
  h.concat rfl nofun

theorem Chain.guarded {rounds : Nat} {o : Outcome Url (Connection Url)} (h : Chain net rounds o)
    (hrounds : rounds ≤ maxRedirects + 1) (eventType message : String) :
    Guarded net (.recorded eventType message :: o.1) := by
  refine .of_unread (fun hop url hmem => h.safe hop url ?_) ?_ fun e hmem => ?_
  · simpa using hmem
  · have hquiet : ¬(Event.recorded eventType message : Event Url).isOpened = true :=
      Bool.false_ne_true
    rw [List.countP_cons_of_neg hquiet]
    exact h.few.trans hrounds
  · rcases List.mem_cons.mp hmem with rfl | hmem
    · rfl
    · exact h.unread e hmem

theorem prefetchUrl_guarded (hsame : SameAddresses net) (target : PrefetchTarget)
    (eventType message : String) :
    Guarded net (.recorded eventType message :: (prefetchUrl net target).1) := by
  have hchain := openValidatedConnection_chain hsame target.value
  have hguarded := hchain.guarded (Nat.le_refl _) eventType message
  rw [prefetchUrl]
  generalize openValidatedConnection net target.value = o at hchain hguarded
  match o with
  | (events, .error failure) => exact hguarded
  | (events, .ok ⟨hop, url, response⟩) =>
    dsimp only
    split
    · exact hguarded.concat rfl nofun
    · obtain ⟨hlast, hanswered, hcode⟩ := hchain.final ⟨hop, url, response⟩ rfl
      have hread := hguarded.concat (e := .bodyRead hop url response.code) rfl
        fun hop' url' code h => by
          cases h
          exact ⟨hlast, hanswered, hcode⟩
      simpa using hread.concat (e := .disconnected url) rfl nofun

theorem Guarded.of_quiet {events : List (Event Url)}
    (h : ∀ e ∈ events, e.isOpened = false ∧ e.isBodyRead = false) : Guarded net events := by
  refine .of_unread (fun hop url hmem => ?_) ?_ fun e hmem => (h e hmem).2
  · exact absurd (h _ hmem).1 nofun
  · rw [List.countP_eq_zero.mpr fun e hmem => by simp [(h e hmem).1]]
    exact Nat.zero_le _

theorem prefetchUri_guarded (target : PrefetchTarget) (eventType message : String) :
    Guarded net (.recorded eventType message :: (prefetchUri net target).1) := by
  refine .of_quiet fun e h => ?_
  rw [prefetchUri] at h
  rcases List.mem_cons.mp h with rfl | h
  · exact ⟨rfl, rfl⟩
  · split at h
    · cases h
    · split at h
      · cases h
      · cases h
      · rw [List.mem_singleton.mp h]
        exact ⟨rfl, rfl⟩

/-- Whatever target is enqueued and whatever the servers answer, the guard is kept to. -/
theorem enqueue_guarded (hsame : SameAddresses net) (rawTarget : KString) :
    Guarded net (enqueue net rawTarget) := by
  rw [enqueue]
  cases PrefetchTarget.parse net rawTarget with
  | error message => exact .of_quiet (by simp [Event.isOpened, Event.isBodyRead])
  | ok target =>
    have hguarded : Guarded net (.recorded "prefetch_started" "Prefetch started" ::
        (if target.kind = kstr "url" then prefetchUrl net target
          else if target.kind = kstr "uri" then prefetchUri net target
          else ([], .error ("Unsupported target kind: " ++ replaced target.kind))).1) := by
      split
      · exact prefetchUrl_guarded hsame target _ _
      · split
        · exact prefetchUri_guarded target _ _
        · exact .of_quiet (by simp [Event.isOpened, Event.isBodyRead])
    dsimp only
    generalize (if target.kind = kstr "url" then prefetchUrl net target
      else if target.kind = kstr "uri" then prefetchUri net target
      else ([], .error ("Unsupported target kind: " ++ replaced target.kind))) = o at hguarded ⊢
    cases o.2 <;> exact hguarded.recorded _ _

section
/-! A feed that has moved to another host. -/

inductive SampleUrl
  | feed
  | moved
  deriving DecidableEq

def SampleUrl.text : SampleUrl → KString
  | .feed => kstr "https://a.test/f"
  | .moved => kstr "https://b.test/f"

def publicAddress : InetAddress := ⟨[93, 184, 216, 34], .inl rfl⟩

def sampleNet : Net SampleUrl where
  lowercase := id
  parseUrl s :=
    if s = SampleUrl.feed.text then .ok .feed
    else if s = SampleUrl.moved.text then .ok .moved
    else .error "no protocol"
  parseRelative _ location :=
    if location = kstr "//b.test/f" then .ok .moved else .error "no protocol"
  toString := SampleUrl.text
  protocol _ := kstr "https"
  host url := some (match url with | .feed => kstr "a.test" | .moved => kstr "b.test")
  getByName _ := .ok publicAddress
  getAllByName _ _ := .ok [publicAddress]
  connectsTo _ _ := [publicAddress]
  respond _ url :=
    match url with
    | .feed => .ok ⟨302, some (kstr "//b.test/f"), []⟩
    | .moved => .ok ⟨200, none, [.bytes 4096, .bytes 100]⟩
  uriScheme _ := none
  openContent _ := .error "no provider"

theorem enqueue_guarded_sample :
    enqueue sampleNet (kstr "url:https://a.test/f") =
        [.recorded "prefetch_started" "Prefetch started", .opened 0 .feed, .disconnected .feed,
          .opened 1 .moved, .bodyRead 1 .moved 200, .disconnected .moved,
          .recorded "prefetch_succeeded" "Prefetch completed"] ∧
      Guarded sampleNet (enqueue sampleNet (kstr "url:https://a.test/f")) := by
  refine ⟨by decide +kernel, enqueue_guarded (fun _ _ _ h => ?_) _⟩
  cases h
  rfl

end

end AccessibleContentPrefetcher

end Dipecs.Device
