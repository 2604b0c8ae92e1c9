import Mathlib

/-! The contract between a proxy and the user's message listener. -/

set_option autoImplicit false

namespace Zms.Client

inductive MsgConsumedStatus where
  | SUCCEED | FAILURE | RETRY | RETRY_1S | RETRY_5S | RETRY_10S | RETRY_30S | RETRY_1M | RETRY_2M
  | RETRY_3M | RETRY_4M | RETRY_5M | RETRY_6M | RETRY_7M | RETRY_8M | RETRY_9M | RETRY_10M
  | RETRY_20M | RETRY_30M | RETRY_1H | RETRY_2H
  deriving DecidableEq, Repr

def MsgConsumedStatus.level : MsgConsumedStatus → Int
  | .SUCCEED => -1
  | .FAILURE => 0
  | .RETRY => 0
  | .RETRY_1S => 1
  | .RETRY_5S => 2
  | .RETRY_10S => 3
  | .RETRY_30S => 4
  | .RETRY_1M => 5
  | .RETRY_2M => 6
  | .RETRY_3M => 7
  | .RETRY_4M => 8
  | .RETRY_5M => 9
  | .RETRY_6M => 10
  | .RETRY_7M => 11
  | .RETRY_8M => 12
  | .RETRY_9M => 13
  | .RETRY_10M => 14
  | .RETRY_20M => 15
  | .RETRY_30M => 16
  | .RETRY_1H => 17
  | .RETRY_2H => 18

/-- How one call of the listener ends. -/
inductive Outcome where
  | returned (status : MsgConsumedStatus)
  | threw
  deriving DecidableEq, Repr

end Zms.Client
