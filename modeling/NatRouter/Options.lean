import NatRouter.Lib.Getopt
import NatRouter.Protocol

/-!
# The command line (`main`)

`main` takes its options in a loop around `getopt` and a `switch`.  The timeouts of the NAT have
cases in the switch, `I`, `E` and `R`, which run into each other; but these letters are missing in
the option string, so `getopt` answers them with `?` and the cases are not reached.  The router
starts with the default timeouts whatever it is told, which is right exactly if it is told the
defaults (`timeouts_iff`).
-/

namespace NatRouter

open Getopt

/-! ### `main` -/

/-- The variables that `main` sets from its arguments. -/
structure MainOptions where
  /-- `host`. -/
  host : Str
  /-- `user`, which may be null. -/
  user : Option Str
  /-- `server`. -/
  server : Str
  /-- `rtable`. -/
  rtable : Str
  /-- `template`, which may be null. -/
  template : Option Str
  /-- `port`. -/
  port : UInt32
  /-- `topo`. -/
  topo : UInt32
  /-- `logfile`, which may be null. -/
  logfile : Option Str
  /-- `icmp_query_to`. -/
  icmpQueryTo : UInt32
  /-- `tcp_estab_idle_to`. -/
  tcpEstabIdleTo : UInt32
  /-- `tcp_transitory_to`. -/
  tcpTransitoryTo : UInt32
  /-- `nat_enabled`. -/
  natEnabled : Bool

/-- `DEFAULT_ICMP_QUERY_TO`. -/
def defaultIcmpQueryTo : UInt32 := 60

/-- `DEFAULT_TCP_ESTABLISHED_TO`. -/
def defaultTcpEstablishedTo : UInt32 := 7440

/-- `DEFAULT_TCP_TRANSITORY_TO`. -/
def defaultTcpTransitoryTo : UInt32 := 300

/-- Their initial values. -/
def mainDefaults : MainOptions where
  host := ['v', 'r', 'h', 'o', 's', 't']
  user := none
  server := ['l', 'o', 'c', 'a', 'l', 'h', 'o', 's', 't']
  rtable := ['r', 't', 'a', 'b', 'l', 'e']
  template := none
  port := 8888
  topo := 0
  logfile := none
  icmpQueryTo := defaultIcmpQueryTo
  tcpEstabIdleTo := defaultTcpEstablishedTo
  tcpTransitoryTo := defaultTcpTransitoryTo
  natEnabled := false

/-- The digits of `atoi`, up to the first character that is none. -/
def atoiDigits : Str → ℕ → ℕ
  | [], n => n
  | c :: s, n => if c.isDigit then atoiDigits s (10 * n + (c.toNat - 48)) else n

/-- `atoi`, converted to `unsigned int`: blanks, a sign, and digits.  A number that is no `int`, for
which C defines nothing, wraps around. -/
def atoi (s : Str) : UInt32 :=
  match s.dropWhile fun c => c = ' ' ∨ 9 ≤ c.toNat ∧ c.toNat ≤ 13 with
  | '-' :: digits => -UInt32.ofNat (atoiDigits digits 0)
  | '+' :: digits => UInt32.ofNat (atoiDigits digits 0)
  | digits => UInt32.ofNat (atoiDigits digits 0)

/-- The option string `hs:v:p:u:t:r:l:T:n`. -/
def optstring : Str :=
  ['h', 's', ':', 'v', ':', 'p', ':', 'u', ':', 't', ':', 'r', ':', 'l', ':', 'T', ':', 'n']

/-- The `switch` of `main`.  It exits for `h`; the last three cases have no `break`. -/
def mainSwitch (o : MainOptions) (c : Hit) : Option MainOptions :=
  match c.ret with
  | 'h' => none
  | 'p' => some { o with port := atoi c.optarg }
  | 't' => some { o with topo := atoi c.optarg }
  | 'v' => some { o with host := c.optarg }
  | 'u' => some { o with user := some c.optarg }
  | 's' => some { o with server := c.optarg }
  | 'l' => some { o with logfile := some c.optarg }
  | 'r' => some { o with rtable := c.optarg }
  | 'T' => some { o with template := some c.optarg }
  | 'n' => some { o with natEnabled := true }
  | 'I' =>
    some { o with
      icmpQueryTo := atoi c.optarg
      tcpEstabIdleTo := atoi c.optarg
      tcpTransitoryTo := atoi c.optarg }
  | 'E' => some { o with tcpEstabIdleTo := atoi c.optarg, tcpTransitoryTo := atoi c.optarg }
  | 'R' => some { o with tcpTransitoryTo := atoi c.optarg }
  | _ => some o

/-- What `main` makes of its arguments behind the name of the program, or nothing if it exits. -/
def mainOptions (argv : List Str) : Option MainOptions :=
  parse optstring mainSwitch ⟨[], argv⟩ mainDefaults

/-- The timeouts, as `main` passes them to `sr_init`. -/
structure Timeouts where
  /-- ICMP query timeout. -/
  icmpQuery : UInt32
  /-- TCP established idle timeout. -/
  tcpEstablished : UInt32
  /-- TCP transitory idle timeout. -/
  tcpTransitory : UInt32
  deriving DecidableEq

/-- The last three arguments of `sr_init`. -/
def MainOptions.timeouts (o : MainOptions) : Timeouts :=
  ⟨o.icmpQueryTo, o.tcpEstabIdleTo, o.tcpTransitoryTo⟩

/-- The default timeouts. -/
def defaultTimeouts : Timeouts :=
  ⟨defaultIcmpQueryTo, defaultTcpEstablishedTo, defaultTcpTransitoryTo⟩

/-! ### What the flags mean -/

/-- The flags that set a timeout. -/
inductive TimeoutFlag where
  /-- `-I`, ICMP query. -/
  | icmpQuery
  /-- `-E`, TCP established. -/
  | tcpEstablished
  /-- `-R`, TCP transitory. -/
  | tcpTransitory
  deriving DecidableEq

/-- Its letter. -/
def TimeoutFlag.char : TimeoutFlag → Char
  | .icmpQuery => 'I'
  | .tcpEstablished => 'E'
  | .tcpTransitory => 'R'

/-- An integer as it is written. -/
structure Numeral where
  /-- Nothing, `-` or `+`. -/
  sign : Str
  /-- The digits. -/
  digits : Str
  /-- There is no other sign. -/
  sign_mem : sign ∈ [[], ['-'], ['+']]
  /-- There are no other digits. -/
  isDigit : ∀ c ∈ digits, c.isDigit = true
  /-- There are some. -/
  digits_ne : digits ≠ []

/-- The string. -/
def Numeral.text (n : Numeral) : Str := n.sign ++ n.digits

/-- A flag, with its number in the same argument or in the next one. -/
inductive Flag where
  /-- `-n`. -/
  | nat
  /-- `-I n`, `-E n` or `-R n`. -/
  | separate (flag : TimeoutFlag) (n : Numeral)
  /-- `-In`, `-En` or `-Rn`. -/
  | joined (flag : TimeoutFlag) (n : Numeral)

/-- The arguments that it stands for. -/
def Flag.args : Flag → List Str
  | .nat => [['-', 'n']]
  | .separate flag n => [['-', flag.char], n.text]
  | .joined flag n => ['-' :: flag.char :: n.text]

/-- The timeout that it gives. -/
def Flag.given (flag : TimeoutFlag) : Flag → Option UInt32
  | .nat => none
  | .separate flag' n => if flag' = flag then some (atoi n.text) else none
  | .joined flag' n => if flag' = flag then some (atoi n.text) else none

/-- The last value given for a timeout, or the default. -/
def lastGiven (flags : List Flag) (flag : TimeoutFlag) (default : UInt32) : UInt32 :=
  (flags.filterMap (Flag.given flag)).getLast?.getD default

/-- The timeouts that a list of flags asks for. -/
def requestedTimeouts (flags : List Flag) : Timeouts where
  icmpQuery := lastGiven flags .icmpQuery defaultIcmpQueryTo
  tcpEstablished := lastGiven flags .tcpEstablished defaultTcpEstablishedTo
  tcpTransitory := lastGiven flags .tcpTransitory defaultTcpTransitoryTo

/-! ### What they do -/

/-- The switch leaves the timeouts alone, for the letters that `getopt` finds. -/
lemma timeouts_mainSwitch {o : MainOptions} {c : Hit}
    (hc : c.ret = '?' ∨ takesArgument c.ret optstring ≠ none) (hh : c.ret ≠ 'h') :
    ∃ o', mainSwitch o c = some o' ∧ o'.timeouts = o.timeouts := by
  obtain ⟨ret, optarg⟩ := c
  unfold mainSwitch
  split
  case h_1 heq => exact absurd heq hh
  -- the letters that are missing in the option string
  case h_11 heq =>
    rw [heq] at hc
    exact absurd hc (by decide)
  case h_12 heq =>
    rw [heq] at hc
    exact absurd hc (by decide)
  case h_13 heq =>
    rw [heq] at hc
    exact absurd hc (by decide)
  all_goals exact ⟨_, rfl, rfl⟩

/-- None of the flags asks for the usage. -/
lemma ne_h_of_mem_chars {flags : List Flag} {c : Char}
    (hc : c ∈ (Args.mk [] (flags.flatMap Flag.args)).chars) : c ≠ 'h' := by
  have hnumeral : ∀ n : Numeral, 'h' ∉ n.text := by
    intro n hmem
    rcases List.mem_append.mp hmem with hsign | hdigit
    · have hsigns := n.sign_mem
      simp only [List.mem_cons, List.not_mem_nil, or_false] at hsigns
      rcases hsigns with h | h | h <;> rw [h] at hsign <;> simp at hsign
    · exact absurd (n.isDigit _ hdigit) (by decide)
  have hletter : ∀ flag : TimeoutFlag, flag.char ≠ 'h' := by
    rintro (_ | _ | _) <;> decide
  rintro rfl
  obtain ⟨arg, harg, hmem⟩ := List.mem_flatten.mp hc
  obtain ⟨flag, -, harg⟩ := List.mem_flatMap.mp harg
  cases flag with
  | nat =>
    obtain rfl := List.mem_singleton.mp harg
    exact absurd hmem (by decide)
  | separate flag n =>
    simp only [Flag.args, List.mem_cons, List.not_mem_nil, or_false] at harg
    rcases harg with rfl | rfl
    · simp [(hletter flag).symm] at hmem
    · exact hnumeral n hmem
  | joined flag n =>
    obtain rfl := List.mem_singleton.mp harg
    simp [(hletter flag).symm, hnumeral n] at hmem

/-- The router starts with the default timeouts. -/
lemma mainOptions_timeouts (flags : List Flag) :
    ∃ o, mainOptions (flags.flatMap Flag.args) = some o ∧ o.timeouts = defaultTimeouts := by
  refine parse_invariant (show mainDefaults.timeouts = defaultTimeouts from rfl) ?_
  rintro o c ho hc
  have hh : c.ret ≠ 'h' := by
    rcases hc with hbad | ⟨-, hmem⟩
    · rw [hbad]
      decide
    · exact ne_h_of_mem_chars hmem
  obtain ⟨o', ho', hsame⟩ := timeouts_mainSwitch (hc.imp_right And.left) hh
  exact ⟨o', ho', hsame.trans ho⟩

/-- **The timeouts are those that the flags ask for**, if and only if these are the defaults. -/
theorem timeouts_iff (flags : List Flag) : ∃ o, mainOptions (flags.flatMap Flag.args) = some o ∧
    (o.timeouts = requestedTimeouts flags ↔
      lastGiven flags .icmpQuery defaultIcmpQueryTo = defaultIcmpQueryTo ∧
        lastGiven flags .tcpEstablished defaultTcpEstablishedTo = defaultTcpEstablishedTo ∧
        lastGiven flags .tcpTransitory defaultTcpTransitoryTo = defaultTcpTransitoryTo) := by
  obtain ⟨o, ho, htimeouts⟩ := mainOptions_timeouts flags
  refine ⟨o, ho, ?_⟩
  rw [htimeouts, defaultTimeouts, requestedTimeouts, Timeouts.mk.injEq]
  simp only [eq_comm]

/-- `-I 5`. -/
def fiveSeconds : Flag :=
  .separate .icmpQuery ⟨[], ['5'], by decide, List.forall_mem_singleton.mpr rfl, by decide⟩

/-- With it the router starts with an ICMP query timeout of 60 seconds. -/
theorem fiveSeconds_ignored : ∃ o, mainOptions ([fiveSeconds].flatMap Flag.args) = some o ∧
    o.timeouts.icmpQuery = 60 ∧ (requestedTimeouts [fiveSeconds]).icmpQuery = 5 := by
  obtain ⟨o, ho, htimeouts⟩ := mainOptions_timeouts [fiveSeconds]
  exact ⟨o, ho, by rw [htimeouts]; rfl, by decide⟩

end NatRouter
