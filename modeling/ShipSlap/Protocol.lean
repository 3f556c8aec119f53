/-!
The two discovery protocols. SHIP (service host interconnect) advertises which hosts carry a
topic, and SLAP (service lookup availability) which hosts answer a lookup service. Each has a
four-letter tag, a wallet protocol name, a name prefix (`tm_` for topics, `ls_` for services),
the topic its advertisements are submitted to and the lookup service that answers for them.
Main statements: `ofTag?_tag` (the tag names the protocol) and `bareName_fullName`.
-/
namespace ShipSlap

/-- A discovery protocol. -/
inductive Protocol where
  | ship
  | slap
  deriving Repr, DecidableEq, Inhabited

namespace Protocol

/-- Both protocols, SHIP first. -/
def all : List Protocol := [.ship, .slap]

/-- The four-letter tag. -/
def tag : Protocol → String
  | .ship => "SHIP"
  | .slap => "SLAP"

/-- The protocol whose tag is exactly `s`. -/
def ofTag? (s : String) : Option Protocol :=
  if s = "SHIP" then some .ship else if s = "SLAP" then some .slap else none

/-- The wallet protocol name under which advertisement keys are derived. -/
def protocolName : Protocol → String
  | .ship => "service host interconnect"
  | .slap => "service lookup availability"

/-- The prefix of advertised names. -/
def namePrefix : Protocol → String
  | .ship => "tm_"
  | .slap => "ls_"

/-- The topic advertisements are submitted to. -/
def topic : Protocol → String
  | .ship => "tm_ship"
  | .slap => "tm_slap"

/-- The lookup service that answers for advertisements. -/
def lookupService : Protocol → String
  | .ship => "ls_ship"
  | .slap => "ls_slap"

/-- The advertised name of a bare name: the prefix put in front. -/
def fullName (p : Protocol) (bare : String) : String :=
  p.namePrefix ++ bare

/-- A name with one leading prefix removed, if it has one. -/
def bareName (p : Protocol) (name : String) : String :=
  if name.startsWith p.namePrefix then String.ofList (name.toList.drop 3) else name

/-- The other protocol. -/
def other : Protocol → Protocol
  | .ship => .slap
  | .slap => .ship

theorem ofTag?_tag (p : Protocol) : ofTag? p.tag = some p := by
  cases p <;> decide

theorem ofTag?_eq_some {s : String} {p : Protocol} (h : ofTag? s = some p) : s = p.tag := by
  unfold ofTag? at h
  split at h
  · cases h; assumption
  · split at h
    · cases h; assumption
    · cases h

end Protocol

end ShipSlap
