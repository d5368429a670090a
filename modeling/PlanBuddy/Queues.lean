/-!
# Queue configuration and shared values

The tables of `queues.js`, keyed by queue. Source code looks a key up and falls
back with `??` when it is missing, so an entry is optional and each reader
supplies its own default; the shipped tables have an entry for every key they
are consulted at. Laws about a limit are stated for every configuration, with
the shipped one as an instance.

Times are integers in milliseconds and may come from different clocks. Parsed
JSON is a tree; numbers are rational, since the only arithmetic question asked
of them is whether they are zero.
-/

namespace PlanBuddy

abbrev Time := Int

/-- A worker identifies itself by text. -/
abbrev WorkerId := String

inductive QueueKey where
  | webhookEvents
  | emailDispatch
  | refundRetry
  | bookingExpiry
  | paymentReconciliation
  | outboxRelay
deriving DecidableEq

/-- The tables the engine, the controller and the workers read. -/
structure QueueConfig where
  concurrency : QueueKey → Option Nat
  concurrencyMin : QueueKey → Option Nat
  concurrencyMax : QueueKey → Option Nat
  batchSize : QueueKey → Option Nat
  leaseTimeoutMs : QueueKey → Option Nat
  maxRetryAttempts : QueueKey → Option Nat
  retryDelayBaselineMs : QueueKey → Option Nat
  failureThreshold : QueueKey → Option Nat
  openTimeoutMs : QueueKey → Option Nat
  probeCount : QueueKey → Option Nat
  rateLimitEnabled : QueueKey → Bool
  currentRegion : String

/-- The values `queues.js` exports, for a process without a `REGION_ID`. -/
def queues : QueueConfig where
  concurrency
    | .webhookEvents => some 10
    | .emailDispatch => some 5
    | .refundRetry => some 3
    | .bookingExpiry => some 2
    | .paymentReconciliation => some 2
    | .outboxRelay => some 4
  concurrencyMin _ := some 1
  concurrencyMax
    | .webhookEvents => some 40
    | .emailDispatch => some 20
    | .refundRetry => some 8
    | .bookingExpiry => some 8
    | .paymentReconciliation => some 8
    | .outboxRelay => some 16
  batchSize
    | .webhookEvents => some 50
    | .emailDispatch => some 20
    | .refundRetry => some 10
    | .bookingExpiry => some 100
    | .paymentReconciliation => some 50
    | .outboxRelay => some 100
  leaseTimeoutMs
    | .webhookEvents => some 30000
    | .emailDispatch => some 60000
    | .refundRetry => some 120000
    | .bookingExpiry => some 55000
    | .paymentReconciliation => some 280000
    | .outboxRelay => some 30000
  maxRetryAttempts
    | .outboxRelay => some 10
    | _ => some 5
  retryDelayBaselineMs
    | .refundRetry => some 2000
    | .outboxRelay => some 500
    | _ => some 1000
  failureThreshold
    | .webhookEvents => some 5
    | .outboxRelay => some 5
    | _ => some 3
  openTimeoutMs
    | .webhookEvents => some 30000
    | .emailDispatch => some 60000
    | .refundRetry => some 120000
    | .bookingExpiry => some 30000
    | .paymentReconciliation => some 60000
    | .outboxRelay => some 15000
  probeCount
    | .webhookEvents => some 2
    | .outboxRelay => some 2
    | _ => some 1
  rateLimitEnabled
    | .webhookEvents => true
    | .emailDispatch => true
    | .refundRetry => true
    | _ => false
  currentRegion := "us-east-1"

inductive Json where
  | null
  | bool (value : Bool)
  | num (value : Rat)
  | str (value : String)
  | arr (items : List Json)
  | obj (fields : List (String × Json))

/-- JavaScript truthiness: empty text, zero, false and null are falsy, while
every array and object is truthy. -/
def Json.truthy : Json → Bool
  | .null => false
  | .bool value => value
  | .num value => decide (value ≠ 0)
  | .str value => decide (value ≠ "")
  | .arr _ => true
  | .obj _ => true

/-- What a JSONB column holds after `value ? JSON.stringify(value) : null`, where
an absent value is `undefined`. -/
def storedJson (value : Option Json) : Option Json := value.filter Json.truthy

end PlanBuddy
