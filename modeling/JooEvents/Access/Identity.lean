import JooEvents.Kernel.Text

/-!
# Identity records

The users and memberships that sign-in and authorization read. Emails are compared
normalized, and instants through `Date.parse`, for which a text that is no instant is
neither before nor after another.
-/

namespace JooEvents

/-- What sign-in takes from the language. -/
structure AccessHost where
  /-- `String.prototype.normalize('NFKC')`. -/
  nfkc : String → String
  /-- `toLocaleLowerCase('en-US')`. -/
  toLowerCase : String → String
  /-- `Date.parse`, which reads no instant from a text that is none. -/
  dateParse : String → Option ℤ

def AccessHost.normalizeEmail (host : AccessHost) (email : String) : String :=
  host.toLowerCase (host.nfkc (trimText email))

/-- `Date.parse(s) > Date.parse(t)`. -/
def AccessHost.later (host : AccessHost) (s t : String) : Bool :=
  match host.dateParse s, host.dateParse t with
  | some a, some b => decide (b < a)
  | _, _ => false

/-- `Date.parse(s) <= Date.parse(t)`. -/
def AccessHost.notAfter (host : AccessHost) (s t : String) : Bool :=
  match host.dateParse s, host.dateParse t with
  | some a, some b => decide (a ≤ b)
  | _, _ => false

inductive UserStatus where
  | pendingReview
  | active
  | suspended
  | deactivated
  deriving DecidableEq

def UserStatus.text : UserStatus → String
  | .pendingReview => "pending_review"
  | .active => "active"
  | .suspended => "suspended"
  | .deactivated => "deactivated"

inductive MembershipStatus where
  | invited
  | pendingReview
  | active
  | suspended
  | deactivated
  deriving DecidableEq

def MembershipStatus.text : MembershipStatus → String
  | .invited => "invited"
  | .pendingReview => "pending_review"
  | .active => "active"
  | .suspended => "suspended"
  | .deactivated => "deactivated"

structure User where
  id : String
  status : UserStatus

/-- The admission state of a user in a workspace. -/
structure WorkspaceMembership where
  id : String
  workspaceId : String
  userId : String
  status : MembershipStatus
  version : Option ℤ

inductive OverrideEffect where
  | grant
  | deny
  deriving DecidableEq

end JooEvents
