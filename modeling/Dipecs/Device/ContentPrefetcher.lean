import Dipecs.Device.OrgJson

/-! The content prefetcher: a target is parsed, its URL is validated, and every redirect
that a server answers is validated before it is followed. -/

namespace Dipecs.Device

open Dipecs.Library

/-! ### Addresses -/

structure InetAddress where
  address : List UInt8
  size : address.length = 4 ∨ address.length = 16

namespace InetAddress

def isAnyLocalAddress (a : InetAddress) : Bool := a.address.all (· == 0)

def isLoopbackAddress (a : InetAddress) : Bool :=
  match a.address with
  | [b, _, _, _] => b == 127
  | bytes => bytes.dropLast.all (· == 0) && bytes.getLast? == some 1

def isLinkLocalAddress (a : InetAddress) : Bool :=
  match a.address with
  | [b, c, _, _] => b == 169 && c == 254
  | b :: c :: _ => b == 0xfe && c &&& 0xc0 == 0x80
  | _ => false

def isSiteLocalAddress (a : InetAddress) : Bool :=
  match a.address with
  | [b, c, _, _] => b == 10 || (b == 172 && c &&& 0xf0 == 16) || (b == 192 && c == 168)
  | b :: c :: _ => b == 0xfe && c &&& 0xc0 == 0xc0
  | _ => false

def isMulticastAddress (a : InetAddress) : Bool :=
  match a.address with
  | [b, _, _, _] => b &&& 0xf0 == 0xe0
  | b :: _ => b == 0xff
  | _ => false

end InetAddress

namespace AccessibleContentPrefetcher

def maxDownloadBytes : Nat := 2 * 1024 * 1024

def maxRedirects : Nat := 3

def isBlockedAddress (a : InetAddress) : Bool :=
  let uniqueLocalIpv6 := a.address.length == 16 && (a.address.headD 0 &&& 0xfe) == 0xfc
  a.isAnyLocalAddress || a.isLoopbackAddress || a.isLinkLocalAddress || a.isSiteLocalAddress ||
    a.isMulticastAddress || uniqueLocalIpv6

def isBlockedHostName (host : KString) : Bool :=
  host == kstr "localhost" || (kstr ".localhost").isSuffixOf host

/-! ### The network -/

inductive StreamRead
  | bytes (n : Nat)
  | failed (message : String)

structure Response where
  code : Int
  location : Option KString
  body : List StreamRead

/-- The Java runtime and the network under the prefetcher.  Names are resolved anew at
each connection, once to validate it and once to open it, and a server may answer
anything. -/
structure Net (Url : Type) where
  lowercase : KString → KString
  parseUrl : KString → Except String Url
  parseRelative : Url → KString → Except String Url
  toString : Url → KString
  protocol : Url → KString
  host : Url → Option KString
  getByName : KString → Except String InetAddress
  getAllByName : Nat → KString → Except String (List InetAddress)
  connectsTo : Nat → KString → List InetAddress
  respond : Nat → Url → Except String Response
  uriScheme : KString → Option KString
  openContent : KString → Except String (Option (List StreamRead))

variable {Url : Type}

def hostName (net : Net Url) (url : Url) : KString := ((net.host url).map net.lowercase).getD []

/-- `hop` counts the connections opened before. -/
def checkAddresses (net : Net Url) (hop : Nat) (host : KString) (resolveHost : Bool) :
    Except String Unit :=
  if resolveHost then
    match net.getAllByName hop host with
    | .error message => .error message
    | .ok addresses =>
      if addresses.isEmpty then .error "Prefetch URL host did not resolve"
      else if addresses.any isBlockedAddress then
        .error "Prefetch URL resolved to a private or local address"
      else .ok ()
  else
    match net.getByName host with
    | .error _ => .ok ()
    | .ok address =>
      if isBlockedAddress address then .error "Prefetch URL host is not allowed" else .ok ()

def validateHttpsUrl (net : Net Url) (hop : Nat) (rawUrl : KString) (resolveHost : Bool) :
    Except String Url :=
  match net.parseUrl rawUrl with
  | .error message => .error message
  | .ok url =>
    if net.protocol url ≠ kstr "https" then
      .error "Only https:// URL prefetch targets are supported"
    else if !isNotBlank (hostName net url) then .error "Prefetch URL host is blank"
    else if isBlockedHostName (hostName net url) then .error "Prefetch URL host is not allowed"
    else (checkAddresses net hop (hostName net url) resolveHost).map fun _ => url

/-! ### Targets -/

structure PrefetchTarget where
  raw : KString
  kind : KString
  value : KString

def PrefetchTarget.parse (net : Net Url) (rawTarget : KString) : Except String PrefetchTarget :=
  let trimmed := trimUnits rawTarget
  if !isNotBlank trimmed then .error "Prefetch target is blank"
  else
    let separatorIndex := trimmed.idxOf 58
    if separatorIndex = 0 ∨ separatorIndex = trimmed.length then
      .error "Prefetch target must use '<kind>:<value>' format"
    else
      let kind := net.lowercase (trimmed.take separatorIndex)
      let value := trimUnits (trimmed.drop (separatorIndex + 1))
      if !isNotBlank value then .error "Prefetch target value is blank"
      else if kind = kstr "url" then
        (validateHttpsUrl net 0 value false).map fun url => ⟨trimmed, kind, net.toString url⟩
      else if kind = kstr "uri" then
        if (kstr "content://").isPrefixOf value then .ok ⟨trimmed, kind, value⟩
        else .error "Only content:// URI prefetch targets are supported"
      else .error ("Unsupported prefetch target kind: " ++ replaced kind)

/-! ### Downloads -/

/-- What a prefetch does, in order.  `hop` counts the connections opened before. -/
inductive Event (Url : Type)
  | opened (hop : Nat) (url : Url)
  | disconnected (url : Url)
  | bodyRead (hop : Nat) (url : Url) (code : Int)
  | contentRead (uri : KString)
  | recorded (eventType message : String)
  deriving DecidableEq

abbrev Outcome (Url α : Type) := List (Event Url) × Except String α

structure Connection (Url : Type) where
  hop : Nat
  url : Url
  response : Response

def followRedirects (net : Net Url) : Nat → Nat → Url → Outcome Url (Connection Url)
  | 0, _, _ => ([], .error "Prefetch aborted: too many redirects")
  | rounds + 1, redirectCount, currentUrl =>
    match net.respond redirectCount currentUrl with
    | .error message => ([.opened redirectCount currentUrl], .error message)
    | .ok response =>
      if ¬(300 ≤ response.code ∧ response.code ≤ 399) then
        ([.opened redirectCount currentUrl], .ok ⟨redirectCount, currentUrl, response⟩)
      else if redirectCount ≥ maxRedirects then
        ([.opened redirectCount currentUrl, .disconnected currentUrl],
          .error "Prefetch aborted: too many redirects")
      else
        match response.location with
        | none =>
          ([.opened redirectCount currentUrl], .error "Prefetch redirect missing Location header")
        | some location =>
          match (net.parseRelative currentUrl location).bind fun url =>
              validateHttpsUrl net (redirectCount + 1) (net.toString url) true with
          | .error message =>
            ([.opened redirectCount currentUrl, .disconnected currentUrl], .error message)
          | .ok nextUrl =>
            let (events, result) := followRedirects net rounds (redirectCount + 1) nextUrl
            (.opened redirectCount currentUrl :: .disconnected currentUrl :: events, result)

def openValidatedConnection (net : Net Url) (rawUrl : KString) : Outcome Url (Connection Url) :=
  match validateHttpsUrl net 0 rawUrl true with
  | .error message => ([], .error message)
  | .ok url => followRedirects net (maxRedirects + 1) 0 url

def copyStream : Nat → List StreamRead → Except String Nat
  | total, [] => .ok total
  | _, .failed message :: _ => .error message
  | total, .bytes n :: rest =>
    if total + n > maxDownloadBytes then
      .error "Prefetch aborted: content exceeds 2048 KiB limit"
    else copyStream (total + n) rest

def prefetchUrl (net : Net Url) (target : PrefetchTarget) : Outcome Url Nat :=
  match openValidatedConnection net target.value with
  | (events, .error message) => (events, .error message)
  | (events, .ok ⟨hop, url, response⟩) =>
    if ¬(200 ≤ response.code ∧ response.code ≤ 299) then
      (events ++ [.disconnected url],
        .error ("Prefetch failed with HTTP " ++ ToString.toString response.code))
    else
      (events ++ [.bodyRead hop url response.code, .disconnected url],
        copyStream 0 response.body)

def prefetchUri (net : Net Url) (target : PrefetchTarget) : Outcome Url Nat :=
  if net.uriScheme target.value ≠ some (kstr "content") then
    ([], .error "Only content:// URI prefetch targets are supported")
  else
    match net.openContent target.value with
    | .error message => ([], .error message)
    | .ok none => ([], .error "Unable to open URI for reading")
    | .ok (some reads) => ([.contentRead target.value], copyStream 0 reads)

def enqueue (net : Net Url) (rawTarget : KString) : List (Event Url) :=
  match PrefetchTarget.parse net rawTarget with
  | .error message => [.recorded "prefetch_rejected" message]
  | .ok target =>
    let (events, result) :=
      if target.kind = kstr "url" then prefetchUrl net target
      else if target.kind = kstr "uri" then prefetchUri net target
      else ([], .error ("Unsupported target kind: " ++ replaced target.kind))
    .recorded "prefetch_started" "Prefetch started" :: events ++
      match result with
      | .ok _ => [.recorded "prefetch_succeeded" "Prefetch completed"]
      | .error message => [.recorded "prefetch_failed" message]

end AccessibleContentPrefetcher

end Dipecs.Device
