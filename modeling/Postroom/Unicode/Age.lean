import Postroom.Unicode.Category

/-!
# The age of characters

The edition of the standard that assigned a code point, as runs over the code space.  Patterns read
characters by edition 16 and know no later ones: `known` is what that edition assigned, and
`categorySet` are its general categories.
-/

namespace Postroom.Unicode

/-- The editions that assigned characters, in ascending order, under the letters of the table. -/
def editions : List (Char × String) :=
  [('a', "1.1"), ('b', "2.0"), ('c', "2.1"), ('d', "3.0"), ('e', "3.1"), ('f', "3.2"),
   ('g', "4.0"), ('h', "4.1"), ('i', "5.0"), ('j', "5.1"), ('k', "5.2"), ('l', "6.0"),
   ('m', "6.1"), ('n', "6.2"), ('o', "6.3"), ('p', "7.0"), ('q', "8.0"), ('r', "9.0"),
   ('s', "10.0"), ('t', "11.0"), ('u', "12.0"), ('v', "12.1"), ('w', "13.0"), ('x', "14.0"),
   ('y', "15.0"), ('z', "15.1"), ('A', "16.0"), ('B', "17.0")]

/-- The editions of all code points: the length of a run and the letter of its edition, where `Z`
marks unassigned code points, from U+0000 on. -/
def ageRuns : String :=
  "502a4d30a8d1f1g18d3g11h14i89a5d2g47a1d10a5d17g70a9d1f8g5h3g2a1d13f4j2a2j2Z1a3i1a1p4Z7a1Z1a1Z
   20a1Z44a1j7a1d2f1a1d1a1d1a1d1a1d18a2e1f5g4h1d12a1d66a1d12a1d41a1j2d2f4d53a2f2a2f2a2f1i28a2d8
   a2h2a6i16f4i16j2k2l8p1Z38a2Z7a1t39a1t1a1d2Z2p1m1Z17b1h13b10a1i9a1b3h8Z27a4Z1t5a11Z4g1m1p5j1h
   1a9g5j1a1o1x1h1a1l26a5j19a3d3g6h1l14a2f72a2d5a1d15a1d30a2g10a5d1g14d1Z30d3g27d2Z3g30h18j49d1
   f14Z59i2Z3t46k2Z15k1Z28l2Z1l1Z11s5Z31x1B2x5Z1A8x1m1p11m6p2q1x8r10w11x1t15r1q27m1p1k3a1g53a2l
   18a1k1l5a1k2l25a2j5l1p2k2i1h2i1p3a1Z8a2Z2a2Z22a1Z7a1Z1a3Z4a2Z1a1g7a2Z2a2Z3a1h8Z1a4Z2a1Z5a2Z2
   1a1k2s1t2Z1g1a1g1Z6a4Z2a2Z22a1Z7a1Z2a1Z2a1Z2a2Z1a1Z5a4Z2a2Z3a3Z1j7Z4a1Z1a7Z15a1j1t10Z3a1Z7a1
   g1a1Z3a1Z22a1Z7a1Z2a1Z5a2Z10a1Z3a1Z3a2Z1a15Z1a3g2Z10a1m1g7Z1q6s1Z3a1Z8a2Z2a2Z22a1Z7a1Z2a1Z1g
   4a2Z8a1j2Z2a2Z3a7Z1w2a4Z2a1Z3a2j2Z11a1g6l10Z2a1Z6a3Z3a1Z4a3Z2a1Z1a1Z2a3Z2a3Z3a3Z8a1h3a4Z5a3Z
   3a1Z4a2Z1j6Z1a14Z1h12a8g5Z1p3a1t8a1Z3a1Z23a1Z10a1p5a2Z1x1j7a1Z3a1Z4a7Z2a1Z2j1q1Z1B1x2Z2a2j2Z
   10a7Z1u8j1r1p2a1t8a1Z3a1Z23a1Z10a1Z5a2Z2g7a1Z3a1Z4a7Z2a5Z1B1x1a1Z2a2i2Z10a1Z2i1y12Z1s1p2a1w8
   a1Z3a1Z23a1l16a1l2s1j6a1j1Z3a1Z4a1l1r4Z3r1a7r1q2a2j2Z10a6j3r7j1Z1w2d1Z18d3Z24d1Z9d1Z1d2Z7d3Z
   1d4Z6d1Z1d1Z8d6Z10p2Z3d12Z58a4Z29a37Z2a1Z1a1Z1u2a1u1a1Z1u1a6u4a1u7a1u3a1Z1a1Z1a2u2a1u13a1u3a
   2Z5a1Z1a1Z6a1y1Z10a2Z2a2m32Z72b1Z33b1d2j4Z27b4l6b1d1b1Z21b3d7b1d1b3d1Z15d1Z1j1d2h3j4k2l37Z34
   d1j5d1j2d1j7d3j4d6j26d64j4k2j38a1Z1m5Z1m2Z39a2f2h1a1h3m90a5k68a5k82a6k7d1h63d1h1d1Z4d2Z7d1Z1
   d1Z4d2Z39d1h1d1Z4d2Z31d1h1d1Z4d2Z7d1Z1d1Z4d2Z7d1h7d1Z23d1h31d1h1d1Z4d2Z7d1h39d1h19d2Z2l2h28d
   3Z26h6Z85d1q2Z6q2Z1k630d9k29d3Z81d8p7Z13f1x7f1x9Z1x23f9Z20f12Z13f1Z3f1Z2f12Z93d1g2Z10d6Z10g6
   Z15d1x10d6Z88d1t7Z42d1j5Z70k10Z29g2p1Z12g4Z12g4Z1g3Z42g2Z5g11Z42h2k4Z26h6Z10h1k3Z2h32g28h2Z2
   h63k1Z29k2Z11k6Z10k6Z14k2Z15p2w14x15B2Z12B20Z76i1x1Z2A45i2x1A43j3m12j6m52l8Z4l56j3Z15j3Z51j9
   r2A5Z43t2Z3t8m8Z35k4m1s2p1u5Z108g88h7i28j15p4s1x1r1l1k2i155a1b4j90a6j22a2Z6a2Z38a2Z6a2Z8a1Z1
   a1Z1a1Z1a1Z31a2Z53a1Z15a1Z14a2Z6a1Z19a2Z3a1Z9a1Z47a1d23a1f6d5f2g2h1f7h5f1j1Z4o7a1f2Z27a1Z5h8
   l3Z11a1b1c3d2f4h3k1l1n3p1q1s1x1B14Z18a2d7f1h4i1j15Z57a2d1g1h15f1h2i1j3k48a1d1i4j1k2q4Z91a9d1
   2f242a14f1a1d121a1d1f30d52f2g11h12i1k11l7p4r1s37a2d3A22Z11a21Z139a20f1g150a10f80a8d8f20a2g2f
   1h1d86a2d12f2h10f8g11h1j2k2g16h1i10j3k4j10k1l19k1l1k4l24k1p4a1l4a2l28a1l35a1l1a1l4a3l1a1k7a2
   l7a14f31a3l24a1l14a1l7h4i1m1j1m2l28f4j16f256d512f14g6h7i5j4i41j3p5j5k26p2Z32p1B1w34p3t12p1u8
   p1s25t4q15t1u47h1x47h1x13i3j1k3j4i6j2k107h7k2m5Z45h1Z1m5Z1m2Z54h2m7Z1h1l14Z1l23h9Z7h1Z7h1Z7h
   1Z7h1Z7h1Z7h1Z7h1Z7h1Z32j24h4j2h19j1k10m7p2r5s5t1u3w11x34Z26d1Z89d12Z214d26Z12d4z56a3d3f1d1a
   1Z84a2f2Z6a2f94a1f5Z40a1j1s1t1Z94a1Z16a24d3l5w16h20j2A9Z1z16f29a2g1Z36a12k1g15f28a2g1h50a15f
   12a4g47a1v119a4g99a2g31a1g6582d10w64g20902a22h8j8k1m9q21s5t13w3x1165d3Z18d2f16d1f12d1f3d1f1d
   9Z48k300j20Z32j2l18j8m28j6p1q1m88k8Z23h4i5j2i107j2l1q2l2m12p10l1m3p1r1t2p6q2t6u2x5u4w3A2B2x1
   B1x1B5x3A20Z1B3x2w1p2m1l5j44h1w3Z10k6Z56i8Z69j1r8Z12j6Z28k2q2t84j11Z1j29k3Z78k1Z11k4Z2k31p1Z
   55j9Z14j2Z10j2Z4j28k4p67k24Z5k23m10Z6l2Z6l2Z6l9Z7l1Z7l1Z48p4q2p2u4w4Z80q46k2Z10k6Z11172b12Z2
   3k4Z49k4Z2048b6702a2m59f3k2Z106h38Z7a12Z5a5Z1d25a1Z5a1Z1a1Z2a1Z2a1Z108a16l1x16B365a16x64a2B5
   4a7B1x32e12a1f1g2x16f10h6Z4a3j7p2q21a2f2g10a1Z19a1Z4a4Z3a1f1a1Z135a2Z1a1Z94a2f94a3Z6a2Z6a2Z6
   a2Z3a3Z7a1Z7a10Z3d1c3a12g1Z26g1Z19g1Z2g1Z15g2Z14g34Z123g5Z3g4Z45g3Z9g75h2p2r1Z12j1w3Z1p47Z46
   j130Z29j3Z49j15Z28p4Z31e1p4e9Z3s27e5Z43p5Z30g1Z1g36h4Z14h42Z38e2g38e80g2Z10g6Z36r4Z36r4Z40p8
   Z52p11Z1p11x1Z15x1Z7x1Z2x1Z11x1Z15x1Z7x1Z2x3Z52A12Z311p9Z22p10Z8p24Z6x1Z42x1Z9x69Z6g2Z1g1Z44
   g1Z2g3Z1g2Z1g22k1Z9k63p8Z9p48Z19q1Z2q5Z5q26i2k3Z1i26j5Z1j26B38Z56m4Z2q2m16q2Z46q4h1Z2h5Z8h1Z
   3h1Z27h2t2Z3h4Z9h1t7Z9h7Z32k32p32Z39p4Z12p9Z54k3Z29k2Z27k5Z8k18p7Z4p12Z7p80Z73k55Z51q13Z51q7
   Z6q40t8Z10t6Z38A3Z29A8Z2A208Z31k1Z42w1Z3w2Z2w16Z3A3B8Z9B33Z2B1A3y40t8Z42t22Z26x38Z28w20Z23u9
   Z78l4Z30l6x9Z1p66k1x10Z1t2Z25m7Z10m6Z53m1Z14m3t1w8Z39p9Z73m4q1p2w10m1p5q1Z20p11Z18p1Z43p1r3y
   62Z7q1Z1q1Z4q1Z15q1Z11q6Z59p5Z10p6Z1q3p1Z8p2Z2p2Z22p1Z7p1Z2p1Z5p1Z1t9p2Z2p2Z3p2Z1q6Z1p5Z7p2Z
   7p3Z5p11Z10A1Z1A2Z1A1Z38A1Z10A1Z1A2Z1A1Z4A1Z10A1Z2A8Z2A29Z90r1w1r1Z1r1t1u2w30Z72p8Z10p166Z54
   p2Z18p20q34Z69p11Z10p6Z13r19Z56m1u1x6Z10m6Z20A28Z26q1t2Z15q4Z16q7x185Z60t100Z83p12Z1p7w2Z1w2
   Z8w1Z2w1Z30w1Z2w2Z12w9Z10w70Z8u2Z46u2Z11u27Z72s8Z52s2u23s1t5s13Z16x57p7Z10y86Z8B88Z34A14Z10A
   6Z9r1Z45r1Z14r10Z29r3Z32r2Z22r1Z14r73Z7s1Z2s1Z44s3Z1s1Z2s1Z9s8Z10s6Z6t1Z2t1Z37t1Z2t1Z6t7Z10t
   6Z44B4Z10B246Z25t7Z17y1Z41y3Z28y1A85Z1w15Z50u13Z1u879i42p1q102Z99i12p1Z4i1p11Z196q2636Z99x13
   Z1071k1y9u29y10Z3995A5Z583q6841Z58A1734Z569l7Z31p1Z10p4Z2p79x1Z10x6Z30p2Z6p10Z70p10Z10p1Z7p1
   Z21p5Z19p432Z58A198Z91t5Z25B2Z25B44Z69m6u4Z1u47m9u7Z17m64Z1r1s2u1w11Z2w5B9Z6125r5t6u8B755r48
   3w41Z1A9w22B97Z115B8701Z4x1Z7x1Z2x1Z2l285s4x15Z1y29Z3u2Z1y14Z4u8Z396s2308Z107p5Z13p3Z9p7Z10p
   2Z8p3932Z250A3B3Z436A6Z23B15Z17B15Z46x2Z23x9Z116x60Z246e10Z39e2Z1j180e11q2x21Z70h122Z20y12Z2
   0t12Z87g9Z18i7t135Z85e1Z71e1Z2e2Z1e2Z2e2Z4e1Z12e1Z1e1Z4e1g2e1Z65e1Z4e2Z8e1Z7e1Z28e1Z4e1Z5e1Z
   1e3Z7e1Z338e2h2Z290e2i2Z50e652q15Z5q1Z15q1104Z31x6Z6y213Z7r1Z17r2Z7r1Z2r1Z5r5Z62y33Z1y112Z45
   u3Z14u2Z10u4Z2u320Z31x17Z58u5Z1u464Z42y214Z43A4Z1A192Z31B1Z22B8Z2B224Z7x1Z4x1Z2x1Z15x1Z197p2
   Z16p41Z75r1u4Z10r4Z2r785Z68t76Z61u194Z4m1Z27m1Z2m1Z1m2Z1m1Z10m1Z4m1Z1m1Z1m6Z1m4Z1m1Z1m1Z1m1Z
   3m1Z2m1Z1m2Z1m1Z1m1Z1m1Z1m1Z1m1Z2m1Z1m2Z4m1Z7m1Z4m1Z4m1Z1m1Z10m1Z17m5Z3m1Z5m1Z17m52Z2m270Z44
   j4Z100j12Z15l2Z14l1p1Z15l1Z15l22p10Z11k2p3w31k1t1l1k11l1k1l1k2l1k3l1k3l5k8l1k7l1k10l2m1u3w9l
   1k1l2k2l1k10l4k2l1k10l18r1w56Z26l1k2l13Z34k9l1r4Z9k7Z2l14Z6s154Z33l12p3q6l1p70l1p2q20l12p37l
   1p5l4p5q12p17l7p8q63l1p1l1p182l1p4l2p1q62l2p4m7p5q24l18p1r41p1r86p5l1m16l1m3l1m1l1m1l1m1l1m3
   l1m6l2m4l1m1l2m4l1m12l2p2q11l48p70l10p1q2r2s1u2w1B3Z1y3x13p3Z4p3r2s1t1u2w3Z116l3y4B5y85p4t1y
   6Z12u4Z1x15Z12p4Z56p8Z10p6Z40p8Z30p2Z2w10A4Z2A14Z9B39Z12s1w3u9q6r1s8r8s1r2s12r1u12r1s3t15r13
   s5t1u1w4t2w1x1t1u4t5q13r6s11t2w6u3w2u10t6u1q2t8u1w1x3u23s25t84u4B8Z14t2Z4u1w3y3u2x3Z3u4w2y1A
   1B3Z1B1A6u19w4x3y7w4x3y1A1y3w3x1A1Z1B4Z1B2y7w3x2y1A2Z1A8x1y1A1B4Z1B7x2y7Z147w1Z55w37A10w1B10
   27Z2b42711e7w2x32Z4149k4x1y6B222l2Z5762q12B2Z7473s15Z622z2466Z542e1504Z2b4939w5Z4192y4298B52
   100Z2b65534Z2b65534Z2b65534Z2b65534Z2b65534Z2b65534Z2b65534Z2b65534Z2b65534Z2b65534Z2b1Z1e30
   Z96e128Z240g65038Z131074b"

/-- The first code point of each run, with the letter of its edition. -/
def ageTable : Array (Nat × Text) :=
  Runs.ofText ageRuns.toList

/-- The code points that this or an earlier edition assigned. -/
def assignedBy (edition : String) : CodeSet :=
  let later := (editions.dropWhile fun row => row.2 ≠ edition).drop 1
  let letters := ((editions.filter fun row => !later.contains row).map (·.1))
  Runs.toSet ageTable fun label => label.any letters.contains

/-- The code points that edition 16 assigned. -/
def known : CodeSet :=
  assignedBy "16.0"

/-- U+0295, a lowercase letter before edition 17 gave a case pair to its sound. -/
def recased : CodeSet :=
  .single 0x295

/-- The code points of some general categories, by edition 16. -/
def categorySet (cs : List Category) : CodeSet :=
  let latest := Runs.toSet categoryTable cs.contains
  let kept := if cs.contains .cn then latest.union known.compl else latest.inter known
  if cs.contains .ll then kept.union recased else kept.diff recased

end Postroom.Unicode
