import Postroom.Unicode.Runs

/-!
# Directions of writing

Every code point has a class that says in which direction it is written and how it behaves between
characters of either direction.  `isOrdered` is the rule that keeps a domain name readable when its
parts are written in both directions.
-/

namespace Postroom.Unicode

/-- The classes of direction that matter for names. -/
inductive Direction where
  /-- From left to right. -/
  | left
  /-- From right to left, in Hebrew and such scripts. -/
  | right
  /-- From right to left, in Arabic and such scripts. -/
  | arabic
  /-- An Arabic digit. -/
  | arabicNumber
  /-- A European digit. -/
  | number
  /-- A sign between or beside digits, a neutral character, or one that is not shown. -/
  | weak
  /-- A mark that goes along with the character before it. -/
  | mark
  /-- A separator or a control of direction. -/
  | other
deriving DecidableEq, Repr, Inhabited

namespace Direction

/-- The classes of all code points: the length of a run and the name of its class, from U+0000 on.
-/
def runs : String :=
  "9BN1S1B1S1WS1B14BN3B1S1WS2ON3ET5ON1ES1CS1ES2CS10EN1CS6ON26L6ON26L4ON6BN1B26BN1CS1ON4ET4ON1L2
   ON1BN2ON2ET2EN1ON1L3ON1EN1L5ON23L1ON31L1ON449L2ON7L14ON2L14ON5L9ON1L17ON112NSM4L2ON8L1ON5L2O
   N1L1ON110L1ON140L7NSM256L1ON2L2ON1ET1R45NSM1R1NSM1R2NSM1R2NSM1R1NSM56R6AN2ON1AL2ET1AL1CS1AL2
   ON11NSM48AL21NSM10AN1ET2AN3AL1NSM101AL7NSM1AN1ON6NSM2AL2NSM1ON4NSM2AL10EN23AL1NSM30AL27NSM91
   AL11NSM15AL43R9NSM2R4ON3R1NSM24R4NSM1R9NSM1R3NSM1R5NSM43R3NSM4R48AL2AN5AL9NSM42AL24NSM1AN32N
   SM55L1NSM1L1NSM4L8NSM4L1NSM3L7NSM10L2NSM29L1NSM58L1NSM4L4NSM8L1NSM20L2NSM14L2ET7L1ET2L1NSM2L
   2NSM57L1NSM4L2NSM4L2NSM2L3NSM3L1NSM30L2NSM3L1NSM11L2NSM57L1NSM4L5NSM1L2NSM4L1NSM20L2NSM13L1E
   T8L6NSM1L1NSM58L1NSM2L1NSM1L4NSM8L1NSM7L2NSM11L2NSM30L1NSM61L1NSM12L1NSM37L6ON1ET1ON5L1NSM3L
   1NSM55L1NSM1L3NSM5L3NSM1L4NSM7L2NSM11L2NSM20L7ON2L1NSM58L1NSM15L2NSM20L2NSM28L2NSM57L2NSM4L4
   NSM8L1NSM20L2NSM29L1NSM72L1NSM7L3NSM1L1NSM90L1NSM2L7NSM4L1ET7L8NSM98L1NSM2L9NSM11L7NSM73L2NS
   M27L1NSM1L1NSM1L1NSM4ON51L14NSM1L5NSM1L2NSM5L11NSM1L36NSM9L1NSM102L4NSM1L6NSM1L2NSM2L2NSM25L
   2NSM4L3NSM16L4NSM13L1NSM2L2NSM6L1NSM15L1NSM703L3NSM48L10ON102L1ON639L1WS26L2ON117L3NSM29L2NS
   M30L2NSM30L2NSM64L2NSM1L7NSM8L1NSM2L11NSM7L1ET1L1NSM18L10ON6L11ON3NSM1BN1NSM117L2NSM34L1NSM1
   18L3NSM4L2NSM9L1NSM6L3NSM4L1ON3L2ON152L34ON23L2NSM2L1NSM58L1NSM1L7NSM1L1NSM1L1NSM2L8NSM6L10N
   SM2L1NSM48L46NSM2L12NSM20L4NSM48L1NSM1L5NSM1L1NSM5L1NSM40L9NSM12L2NSM32L4NSM2L2NSM1L3NSM56L1
   NSM1L2NSM3L1NSM1L3NSM58L8NSM2L2NSM152L3NSM1L13NSM1L7NSM4L1NSM6L1NSM3L2NSM198L64NSM445L1ON1L3
   ON11L3ON13L3ON13L3ON13L2ON1L11WS3BN1L1R24ON1WS1B1LRE1RLE1PDF1LRO1RLO1CS5ET15ON1CS26ON1WS6BN1
   LRI1RLI1FSI1PDI6BN1EN3L6EN2ES3ON1L10EN2ES3ON17L48ET33NSM15L2ON1L4ON1L2ON10L1ON1L3ON5L6ON1L1O
   N1L1ON1L1ON4L1ET11L2ON4L5ON5L4ON2L16ON41L3ON4L130ON1ES1ET290ON69L26ON1L148ON22L11ON21L40ON20
   EN78L450ON1L339ON256L628ON2L138ON229L6ON4L3NSM7L7ON127L1NSM96L32NSM94ON34L26ON1L89ON12L214ON
   26L16ON1WS4ON3L25ON9L4NSM2L1ON5L2ON5L3ON89L2NSM2ON3L1ON90L1ON196L38ON9L1ON45L2ON49L16ON28L3O
   N50L15ON12L4ON167L4ON99L2ON31L1ON6592L64ON22160L55ON326L3ON95L4NSM1ON10NSM2ON30L2NSM80L2NSM1
   4L34ON102L1ON121L1NSM3L1NSM4L1NSM25L2NSM1L4ON1NSM11L2ET58L4ON76L2NSM26L18NSM13L1NSM38L8NSM25
   L11NSM46L3NSM48L1NSM2L4NSM2L2NSM39L1NSM67L6NSM2L2NSM2L2NSM12L1NSM8L1NSM47L1NSM51L1NSM1L3NSM2
   L2NSM5L2NSM1L1NSM42L2NSM8L1NSM115L2ON121L1NSM2L1NSM4L1NSM20271L1R1NSM10R1ES38R115AL16ON363AL
   18ON64AL2ON54AL8ON32BN13AL3ON16NSM10ON6L16NSM32ON1CS1ON1CS1L1ON1CS9ON1ET2ON2ES3ON1L1ON2ET1ON
   4L143AL1BN1L2ON3ET5ON1ES1CS1ES2CS10EN1CS6ON26L6ON26L11ON122L2ET3ON2ET1L7ON1L9BN5ON2BN257L1ON
   62L77ON3L13ON3L1ON92L1NSM226L1NSM27EN122L5NSM1157L287R1ON225R3NSM1R2NSM5R4NSM40R3NSM4R1NSM16
   5R2NSM82R7ON448R36AL4NSM8AL10AN6AL10AN31R5NSM1ON241R31AN44R2NSM19R16AL9ON33AL6NSM48R22AL11NS
   M31AL18R4NSM122R1L1NSM54L15NSM11L20ON10L1NSM2L2NSM10L3NSM49L4NSM2L2NSM7L1NSM61L3NSM36L5NSM1L
   8NSM62L1NSM12L2NSM52L9NSM10L4NSM2L1NSM95L3NSM2L1NSM1L2NSM6L1NSM2L1NSM157L1NSM3L8NSM21L2NSM57
   L2NSM3L1NSM37L7NSM3L5NSM70L6NSM13L1NSM1L1NSM1L1NSM14L2NSM85L8NSM2L3NSM1L1NSM23L1NSM84L6NSM1L
   1NSM4L2NSM1L2NSM238L4NSM6L2NSM1L2NSM27L2NSM85L8NSM2L1NSM1L2NSM31L13ON62L1NSM1L1NSM2L6NSM1L1N
   SM101L1NSM1L1NSM2L4NSM1L5NSM259L9NSM1L2NSM256L2NSM1L1NSM4L1NSM144L4NSM2L2NSM4L1NSM32L6NSM2L2
   NSM40L6NSM2L4NSM8L1NSM9L6NSM2L3NSM46L13NSM1L2NSM198L1NSM1L3NSM1L1NSM201L7NSM1L6NSM84L22NSM2L
   7NSM1L2NSM1L2NSM122L6NSM3L1NSM1L2NSM1L7NSM1L1NSM72L2NSM3L1NSM1L1NSM347L2NSM11L2NSM52L5NSM5L1
   NSM1L1NSM23L1NSM122L8ON4ET17ON5198L1NSM6L15NSM11464L12NSM3L3NSM2496L5NSM59L7NSM1048L1NSM63L4
   NSM79L1ON1L1NSM19640L2NSM1L4BN3932L214ON26L10EN3ON3L436ON6L23ON15L17ON15L46NSM2L23NSM544L3NS
   M9L8BN8NSM2L7NSM30L4NSM59L2ON21L66ON3NSM1ON186L87ON874L1ON25L1ON31L1ON25L1ON31L1ON25L1ON31L1
   ON25L1ON31L1ON25L1ON10L50EN512L55NSM4L50NSM8L1NSM14L1NSM22L5NSM1L15NSM1360L7NSM1L17NSM2L7NSM
   1L2NSM1L5NSM100L1NSM160L7NSM375L1NSM61L4NSM15L1ET492L4NSM254L2NSM243L1NSM2L1NSM7L2NSM5L1NSM2
   66L208R7NSM109R7NSM805R80AL64R80AL176R240AL2ON14AL256R44ON4L100ON12L15ON2L15ON1L15ON1L37ON10
   L11EN5ON31L1ON58L6ON61L1ON178L6ON154L985ON3L17ON3L13ON3L218ON6L12ON4L1ON15L12ON4L56ON8L10ON6
   L40ON8L30ON2L12ON4L2ON14L9ON39L344ON8L14ON2L13ON3L11ON3L57ON1L1ON4L16ON2L12ON4L10ON7L147ON1L
   92ON10EN1ON1027L2BN65534L2BN65534L2BN65534L2BN65534L2BN65534L2BN65534L2BN65534L2BN65534L2BN6
   5534L2BN65534L2BN65534L2BN65534L258BN240NSM3600BN61438L2BN65534L2BN65534L2BN"

/-- The direction of a class of this name. -/
def ofName (name : Text) : Direction :=
  if name = "L".toList then left
  else if name = "R".toList then right
  else if name = "AL".toList then arabic
  else if name = "AN".toList then arabicNumber
  else if name = "EN".toList then number
  else if name = "NSM".toList then mark
  else if (["ES", "CS", "ET", "ON", "BN"].map String.toList).contains name then weak
  else other

/-- The first code point of each run, with the class of the run. -/
def table : Array (Nat × Direction) :=
  (Runs.ofText runs.toList).map fun run => (run.1, ofName run.2)

/-- The class of a character. -/
def ofChar (c : Char) : Direction :=
  (Runs.lookup table c.toNat).getD left

/-- The text has characters that are written from right to left. -/
def isMixed (t : Text) : Bool :=
  t.any fun c => [right, arabic, arabicNumber].contains (ofChar c)

/-- A part of a domain name begins in one direction, goes on in it and ends in it. -/
def isOrdered (label : Text) : Bool :=
  let classes := label.map ofChar
  let last := (classes.reverse.dropWhile (· = mark)).head?
  match classes with
  | [] => true
  | left :: rest =>
    rest.all (fun d => [left, number, weak, mark].contains d)
      && last.all fun d => d = left || d = number
  | first :: rest =>
    (first = right || first = arabic)
      && rest.all (fun d => [right, arabic, arabicNumber, number, weak, mark].contains d)
      && last.any (fun d => [right, arabic, number, arabicNumber].contains d)
      && !(rest.contains number && rest.contains arabicNumber)

end Direction

end Postroom.Unicode
