import ValuePipeline.Text.CharSet

/-!
# General categories

Every code point belongs to exactly one of thirty general categories.  The
table lists them run by run from U+0000 on: a mark for the category, in the
order of `Category.all`, and the length of the run in base 36.
-/

namespace ValuePipeline.Text

inductive Category where
  | uppercaseLetter
  | lowercaseLetter
  | titlecaseLetter
  | modifierLetter
  | otherLetter
  | nonspacingMark
  | spacingMark
  | enclosingMark
  | decimalNumber
  | letterNumber
  | otherNumber
  | connectorPunctuation
  | dashPunctuation
  | openPunctuation
  | closePunctuation
  | initialPunctuation
  | finalPunctuation
  | otherPunctuation
  | mathSymbol
  | currencySymbol
  | modifierSymbol
  | otherSymbol
  | spaceSeparator
  | lineSeparator
  | paragraphSeparator
  | control
  | format
  | surrogate
  | privateUse
  | unassigned
  deriving DecidableEq, Repr

namespace Category

def all : List Category :=
  [.uppercaseLetter, .lowercaseLetter, .titlecaseLetter, .modifierLetter, .otherLetter,
    .nonspacingMark, .spacingMark, .enclosingMark, .decimalNumber, .letterNumber, .otherNumber,
    .connectorPunctuation, .dashPunctuation, .openPunctuation, .closePunctuation,
    .initialPunctuation, .finalPunctuation, .otherPunctuation, .mathSymbol, .currencySymbol,
    .modifierSymbol, .otherSymbol, .spaceSeparator, .lineSeparator, .paragraphSeparator, .control,
    .format, .surrogate, .privateUse, .unassigned]

def marks : List Char :=
  "ABCDEFGHIJKLMNOPQRSTUVWXYZ+-*/".toList

private def runTable : String :=
  "Zw W1 R3 T1 R3 N1 O1 R1 S1 R1 M1 R2 Ia R2 S3 R2 Aq N1 R1 O1 U1 L1 U1 Bq N1 S1 O1 S1 Zx W1
    R1 T4 V1 R1 U1 V1 E1 P1 S1 +1 V1 U1 V1 S1 K2 U1 B1 R2 U1 K1 E1 Q1 K3 R1 An S1 A7 Bo S1 B8
    A1 B1 A1 B1 A1 B1 A1 B1 A1 B1 A1 B1 A1 B1 A1 B1 A1 B1 A1 B1 A1 B1 A1 B1 A1 B1 A1 B1 A1 B1
    A1 B1 A1 B1 A1 B1 A1 B1 A1 B1 A1 B1 A1 B1 A1 B1 A1 B1 A1 B1 A1 B1 A1 B1 A1 B2 A1 B1 A1 B1
    A1 B1 A1 B1 A1 B1 A1 B1 A1 B1 A1 B2 A1 B1 A1 B1 A1 B1 A1 B1 A1 B1 A1 B1 A1 B1 A1 B1 A1 B1
    A1 B1 A1 B1 A1 B1 A1 B1 A1 B1 A1 B1 A1 B1 A1 B1 A1 B1 A1 B1 A1 B1 A1 B1 A1 B1 A1 B1 A2 B1
    A1 B1 A1 B3 A2 B1 A1 B1 A2 B1 A3 B2 A4 B1 A2 B1 A3 B3 A2 B1 A2 B1 A1 B1 A1 B1 A2 B1 A1 B2
    A1 B1 A2 B1 A3 B1 A1 B1 A2 B2 E1 A1 B3 E4 A1 C1 B1 A1 C1 B1 A1 C1 B1 A1 B1 A1 B1 A1 B1 A1
    B1 A1 B1 A1 B1 A1 B1 A1 B2 A1 B1 A1 B1 A1 B1 A1 B1 A1 B1 A1 B1 A1 B1 A1 B1 A1 B2 A1 C1 B1
    A1 B1 A3 B1 A1 B1 A1 B1 A1 B1 A1 B1 A1 B1 A1 B1 A1 B1 A1 B1 A1 B1 A1 B1 A1 B1 A1 B1 A1 B1
    A1 B1 A1 B1 A1 B1 A1 B1 A1 B1 A1 B1 A1 B1 A1 B1 A1 B1 A1 B1 A1 B1 A1 B1 A1 B1 A1 B1 A1 B1
    A1 B7 A2 B1 A2 B2 A1 B1 A4 B1 A1 B1 A1 B1 A1 B1 A1 B1x E2 Bq Di U4 Dc Ue D5 U7 D1 U1 D1 Uh
    F34 A1 B1 A1 B1 D1 U1 A1 B1 /2 D1 B3 R1 A1 /4 U2 A1 R1 A3 /1 A1 /1 A2 B1 Ah /1 A9 Bz A1 B2
    A3 B3 A1 B1 A1 B1 A1 B1 A1 B1 A1 B1 A1 B1 A1 B1 A1 B1 A1 B1 A1 B1 A1 B1 A1 B5 A1 B1 S1 A1
    B1 A2 B2 A1f B1c A1 B1 A1 B1 A1 B1 A1 B1 A1 B1 A1 B1 A1 B1 A1 B1 A1 B1 A1 B1 A1 B1 A1 B1 A1
    B1 A1 B1 A1 B1 A1 B1 A1 B1 V1 F5 H2 A1 B1 A1 B1 A1 B1 A1 B1 A1 B1 A1 B1 A1 B1 A1 B1 A1 B1
    A1 B1 A1 B1 A1 B1 A1 B1 A1 B1 A1 B1 A1 B1 A1 B1 A1 B1 A1 B1 A1 B1 A1 B1 A1 B1 A1 B1 A1 B1
    A1 B1 A1 B1 A1 B1 A2 B1 A1 B1 A1 B1 A1 B1 A1 B1 A1 B1 A1 B2 A1 B1 A1 B1 A1 B1 A1 B1 A1 B1
    A1 B1 A1 B1 A1 B1 A1 B1 A1 B1 A1 B1 A1 B1 A1 B1 A1 B1 A1 B1 A1 B1 A1 B1 A1 B1 A1 B1 A1 B1
    A1 B1 A1 B1 A1 B1 A1 B1 A1 B1 A1 B1 A1 B1 A1 B1 A1 B1 A1 B1 A1 B1 A1 B1 A1 B1 A1 B1 A1 B1
    A1 B1 A1 B1 A1 B1 A1 B1 A1 B1 A1 B1 A1 B1 A1 B1 A1 B1 A1 B1 A1 B1 A1 B1 A1 B1 /1 A12 /2 D1
    R6 B15 R1 M1 /2 V2 T1 /1 F19 M1 F1 R1 F2 R1 F2 R1 F1 /8 Er /4 E4 R2 /b +6 S3 R2 T1 R2 V2 Fb
    R1 +1 R3 Ew D1 Ea Fl Ia R4 E2 F1 E2r R1 E1 F7 +1 V1 F6 D2 F2 V1 F4 E2 Ia E3 V2 E1 Re /1 +1
    E1 F1 Eu Fr /2 E2h Fb E1 /e Ia Ex F9 D2 V1 R3 D1 /2 F1 T2 Em F4 D1 F9 D1 F3 D1 F5 /2 Rf /1
    Ep F3 /2 R1 /1 Eb /5 Eo U1 E7 +2 /5 F9 E15 D1 Fo +1 Fw G1 E1i F1 G1 F1 E1 G3 F8 G4 F1 G2 E1
    F7 Ea F2 R2 Ia R1 D1 Ef F1 G2 /1 E8 /2 E2 /2 Em /1 E7 /1 E1 /3 E4 /2 F1 E1 G3 F4 /2 G2 /2
    G2 F1 E1 /8 G1 /4 E2 /1 E3 F2 /2 Ia E2 T2 K6 V1 T1 E1 R1 F1 /2 F2 G1 /1 E6 /4 E2 /2 Em /1
    E7 /1 E2 /1 E2 /1 E2 /2 F1 /1 G3 F2 /4 F2 /2 F3 /3 F1 /7 E4 /1 E1 /7 Ia F2 E3 F1 R1 /a F2
    G1 /1 E9 /1 E3 /1 Em /1 E7 /1 E2 /1 E5 /2 F1 E1 G3 F5 /1 F2 G1 /1 G2 F1 /2 E1 /f E2 F2 /2
    Ia R1 T1 /7 E1 F6 /1 F1 G2 /1 E8 /2 E2 /2 Em /1 E7 /1 E2 /1 E5 /2 F1 E1 G1 F1 G1 F4 /2 G2
    /2 G2 F1 /7 F2 G1 /4 E2 /1 E3 F2 /2 Ia V1 E1 K6 /a F1 E1 /1 E6 /3 E3 /1 E4 /3 E2 /1 E1 /1
    E2 /3 E2 /3 E3 /3 Ec /4 G2 F1 G2 /3 G3 /1 G3 F1 /2 E1 /6 G1 /e Ia K3 V6 T1 V1 /5 F1 G3 F1
    E8 /1 E3 /1 En /1 Eg /2 F1 E1 F3 G4 /1 F3 /1 F4 /7 F2 /1 E3 /1 E2 /2 E2 F2 /2 Ia /7 R1 K7
    V1 E1 F1 G2 R1 E8 /1 E3 /1 En /1 Ea /1 E5 /2 F1 E1 G1 F1 G5 /1 F1 G2 /1 G2 F2 /7 G2 /5 E3
    /1 E2 F2 /2 Ia /1 E2 G1 /c F2 G2 E9 /1 E3 /1 E15 F2 E1 G3 F4 /1 G3 /1 G3 F1 E1 V1 /4 E3 G1
    K7 E3 F2 /2 Ia K9 V1 E6 /1 F1 G2 /1 Ei /3 Eo /1 E9 /1 E1 /2 E7 /3 F1 /4 G3 F3 /1 F1 /1 G8
    /6 Ia /2 G2 R1 /c E1c F1 E2 F7 /4 T1 E6 D1 F8 R1 Ia R2 /11 E2 /1 E1 /1 E5 /1 Eo /1 E1 /1 Ea
    F1 E2 F9 E1 /2 E5 /1 D1 /1 F7 /1 Ia /2 E4 /w E1 V3 Rf V1 R1 V3 F2 V6 Ia Ka V1 F1 V1 F1 V1
    F1 N1 O1 N1 O1 G2 E8 /1 E10 /4 Fe G1 F5 R1 F2 E5 Fb /1 F10 /1 V8 F1 V6 /1 V2 R5 V4 R2 /11
    E17 G2 F4 G1 F6 G1 F2 G2 F2 E1 Ia R6 E6 G2 F2 E4 F3 E1 G3 E2 G7 E3 F4 Ed F1 G2 F2 G6 F1 E1
    G1 Ia G3 F1 V2 A12 /1 A1 /5 A1 /2 B17 R1 D1 B3 E95 /1 E4 /2 E7 /1 E1 /1 E4 /2 E15 /1 E4 /2
    Ex /1 E4 /2 E7 /1 E1 /1 E4 /2 Ef /1 E1l /1 E4 /2 E1v /2 F3 R9 Kk /3 Eg Va /6 A2e /2 B6 /2
    M1 Eh8 V1 R1 Eh W1 Eq N1 O1 /3 E23 R3 J3 E8 /7 Ei F3 G1 /9 Ej F2 G1 R2 /9 Ei F2 /c Ed /1 E3
    /1 F2 /c E1g F2 G1 F7 G8 F1 G2 Fb R3 D1 R3 T1 E1 F1 /2 Ia /6 Ka /6 R6 M1 R4 F3 +1 F1 Ia /6
    Ez D1 E1h /7 E5 F2 Ey F1 E1 /5 E1y /a Ev /1 F3 G4 F2 G3 /4 G2 F1 G6 F3 /4 V1 /3 R2 Ia Eu /2
    E5 /b E18 /4 Eq /6 Ia K1 /3 Vy En F2 G2 F1 /2 R2 E1h G1 F1 G1 F7 /1 F1 G1 F1 G2 F8 G6 Fa /2
    F1 Ia /6 Ia /6 R7 D1 R6 /2 Fe H1 Fv /2 Fc /k F4 G1 E1b F1 G1 F5 G1 F1 G5 F1 G2 E8 /1 R2 Ia
    R7 Va F9 V9 R3 F2 G1 Eu G1 F4 G2 F2 G1 F3 E2 Ia E18 F1 G1 F2 G3 F1 G1 F3 G2 /8 R4 E10 G8 F8
    G2 F2 /3 R5 Ia /3 E3 Ia Eu D6 R2 B9 A1 B1 /5 A17 /2 A3 R8 /8 F3 R1 Fd G1 F7 E4 F1 E6 F1 E2
    G1 F2 E1 /5 B18 D1r Bd D1 By D11 F1s A1 B1 A1 B1 A1 B1 A1 B1 A1 B1 A1 B1 A1 B1 A1 B1 A1 B1
    A1 B1 A1 B1 A1 B1 A1 B1 A1 B1 A1 B1 A1 B1 A1 B1 A1 B1 A1 B1 A1 B1 A1 B1 A1 B1 A1 B1 A1 B1
    A1 B1 A1 B1 A1 B1 A1 B1 A1 B1 A1 B1 A1 B1 A1 B1 A1 B1 A1 B1 A1 B1 A1 B1 A1 B1 A1 B1 A1 B1
    A1 B1 A1 B1 A1 B1 A1 B1 A1 B1 A1 B1 A1 B1 A1 B1 A1 B1 A1 B1 A1 B1 A1 B1 A1 B1 A1 B1 A1 B1
    A1 B1 A1 B1 A1 B1 A1 B1 A1 B1 A1 B1 A1 B1 A1 B1 A1 B1 A1 B1 A1 B1 A1 B1 A1 B1 A1 B1 A1 B1
    A1 B1 A1 B1 A1 B1 A1 B1 A1 B1 A1 B9 A1 B1 A1 B1 A1 B1 A1 B1 A1 B1 A1 B1 A1 B1 A1 B1 A1 B1
    A1 B1 A1 B1 A1 B1 A1 B1 A1 B1 A1 B1 A1 B1 A1 B1 A1 B1 A1 B1 A1 B1 A1 B1 A1 B1 A1 B1 A1 B1
    A1 B1 A1 B1 A1 B1 A1 B1 A1 B1 A1 B1 A1 B1 A1 B1 A1 B1 A1 B1 A1 B1 A1 B1 A1 B1 A1 B1 A1 B1
    A1 B1 A1 B1 A1 B1 A1 B1 A1 B1 A1 B1 A1 B1 A1 B1 A1 B1 A1 B9 A8 B6 /2 A6 /2 B8 A8 B8 A8 B6
    /2 A6 /2 B8 /1 A1 /1 A1 /1 A1 /1 A1 B8 A8 Be /2 B8 C8 B8 C8 B8 C8 B5 /1 B2 A4 C1 U1 B1 U3
    B3 /1 B2 A4 C1 U3 B4 /2 B2 A4 /1 U3 B8 A5 U3 /2 B3 /1 B2 A4 C1 U2 /1 Wb +5 M6 R2 P1 Q1 N1
    P2 Q1 N1 P1 R8 X1 Y1 +5 W1 R9 P1 Q1 R4 L2 R3 S1 N1 O1 Rb S1 R1 L1 Ra W1 +5 /1 +a K1 D1 /2
    K6 S3 N1 O1 D1 Ka S3 N1 O1 /1 Dd /3 Ty /e Fd H4 F1 H3 Fc /f V2 A1 V4 A1 V2 B1 A3 B2 A3 B1
    V1 A1 V2 S1 A5 V6 A1 V1 A1 V1 A1 V1 A4 V1 B1 A4 B1 E4 B1 V2 B2 A2 S5 A1 B4 V1 S1 V2 B1 V1
    Kg Jz A1 B1 J4 K1 V2 /4 S5 V5 S2 V4 S1 V2 S1 V2 S1 V7 S1 Vv S2 V2 S1 V1 S1 Vv S7g V8 N1 O1
    N1 O1 Vk S2 V7 N1 O1 V29 S1 Vu Sp V14 S6 V20 /m Vb /l K1o V26 Km V53 S1 V9 S1 V1i S8 V33 S1
    V6w N1 O1 N1 O1 N1 O1 N1 O1 N1 O1 N1 O1 N1 O1 Ku V18 S5 N1 O1 Sv N1 O1 N1 O1 N1 O1 N1 O1 N1
    O1 Sg V74 S3n N1 O1 N1 O1 N1 O1 N1 O1 N1 O1 N1 O1 N1 O1 N1 O1 N1 O1 N1 O1 N1 O1 S1r N1 O1
    N1 O1 Sw N1 O1 S76 V1c Sl V2 S6 V13 /2 V3u A1c B1c A1 B1 A3 B2 A1 B1 A1 B1 A1 B1 A4 B1 A1
    B2 A1 B6 D2 A3 B1 A1 B1 A1 B1 A1 B1 A1 B1 A1 B1 A1 B1 A1 B1 A1 B1 A1 B1 A1 B1 A1 B1 A1 B1
    A1 B1 A1 B1 A1 B1 A1 B1 A1 B1 A1 B1 A1 B1 A1 B1 A1 B1 A1 B1 A1 B1 A1 B1 A1 B1 A1 B1 A1 B1
    A1 B1 A1 B1 A1 B1 A1 B1 A1 B1 A1 B1 A1 B1 A1 B1 A1 B1 A1 B1 A1 B1 A1 B1 A1 B1 A1 B1 A1 B1
    A1 B1 A1 B1 A1 B1 A1 B1 A1 B1 A1 B1 A1 B2 V6 A1 B1 A1 B1 F3 A1 B1 /5 R4 K1 R2 B12 /1 B1 /5
    B1 /2 E1k /7 D1 R1 /e F1 En /9 E7 /1 E7 /1 E7 /1 E7 /1 E7 /1 E7 /1 E7 /1 E7 /1 Fw R2 P1 Q1
    P1 Q1 R3 P1 Q1 R1 P1 Q1 R9 M1 R2 M1 R1 P1 Q1 R2 P1 Q1 N1 O1 N1 O1 N1 O1 N1 O1 R5 D1 Ra M2
    R4 M1 R1 N1 Rd V2 R3 N1 O1 N1 O1 N1 O1 N1 O1 M1 /y Vq /1 V2h /c V5y /q Vg W1 R3 V1 D1 E1 J1
    N1 O1 N1 O1 N1 O1 N1 O1 N1 O1 V2 N1 O1 N1 O1 N1 O1 N1 O1 M1 N1 O2 V1 J9 F4 G2 M1 D5 V2 J3
    D1 E1 R1 V2 /1 E2e /2 F2 U2 D2 E1 M1 E2i R1 D3 E1 /5 E17 /1 E2m /1 V2 K4 Va Ew V12 /9 V1 Eg
    Vv /1 Ka Vu K8 V1 Kf Vw Ka V13 Kf V8w E534 V1s Eg7p D1 Evr /3 V1j /9 E14 D6 R2 E7g D1 R3 Eg
    Ia E2 /k A1 B1 A1 B1 A1 B1 A1 B1 A1 B1 A1 B1 A1 B1 A1 B1 A1 B1 A1 B1 A1 B1 A1 B1 A1 B1 A1
    B1 A1 B1 A1 B1 A1 B1 A1 B1 A1 B1 A1 B1 A1 B1 A1 B1 A1 B1 E1 F1 H3 R1 Fa R1 D1 A1 B1 A1 B1
    A1 B1 A1 B1 A1 B1 A1 B1 A1 B1 A1 B1 A1 B1 A1 B1 A1 B1 A1 B1 A1 B1 A1 B1 D2 F2 E1y Ja F2 R6
    /8 Un D9 U2 A1 B1 A1 B1 A1 B1 A1 B1 A1 B1 A1 B1 A1 B3 A1 B1 A1 B1 A1 B1 A1 B1 A1 B1 A1 B1
    A1 B1 A1 B1 A1 B1 A1 B1 A1 B1 A1 B1 A1 B1 A1 B1 A1 B1 A1 B1 A1 B1 A1 B1 A1 B1 A1 B1 A1 B1
    A1 B1 A1 B1 A1 B1 A1 B1 A1 B1 A1 B1 A1 B1 A1 B1 A1 B1 A1 B1 D1 B8 A1 B1 A1 B1 A2 B1 A1 B1
    A1 B1 A1 B1 A1 B1 D1 U2 A1 B1 A1 B1 E1 A1 B1 A1 B3 A1 B1 A1 B1 A1 B1 A1 B1 A1 B1 A1 B1 A1
    B1 A1 B1 A1 B1 A1 B1 A5 B1 A5 B1 A1 B1 A1 B1 A1 B1 A1 B1 A1 B1 A1 B1 A1 B1 A4 B1 A1 B1 A2
    B1 A1 B1 A1 B1 A1 B1 A1 B1 A1 B1 A1 B1 A1 B1 A1 /k D4 A1 B1 E1 D2 B1 E7 F1 E3 F1 E4 F1 En
    G2 F2 G1 V4 F1 /3 K6 V2 T1 V1 /6 E1g R4 /8 G2 E1e Gg F2 /8 R2 Ia /6 Fi E6 R3 E1 R1 E2 F1 Ia
    Es F8 R2 En Fb G2 /b R1 Et /3 F3 G1 E1b F1 G2 F4 G2 F2 G3 Rd /1 D1 Ia /4 R2 E5 F1 D1 E9 Ia
    E5 /1 E15 F6 G2 F2 G2 F2 /9 E3 F1 E8 F1 G1 /2 Ia /2 R4 Eg D1 E6 V3 E1 G1 F1 G1 E1e F1 E1 F3
    E2 F2 E5 F2 E1 F1 E1 /o E2 D1 R2 Eb G1 F2 G2 R2 E1 D2 G1 F1 /a E6 /2 E6 /2 E6 /9 E7 /1 E7
    /1 B17 U1 D4 B9 D1 U2 /4 B28 Ez G2 F1 G2 F1 G2 R1 G1 F1 /2 Ia /6 E8mc /c En /4 E1d /4 -1kw
    *4xs Ea6 /2 E2y /12 B7 /c B5 /5 E1 F1 Ea S1 Ed /1 E5 /1 E1 /1 E2 /1 E2 /1 E30 Uh Vg Ea3 O1
    N1 Vg E1s V2 E1i V8 /w Ec T1 V3 Fg R7 N1 O1 R1 /6 Fg R1 M2 L2 N1 O1 N1 O1 N1 O1 N1 O1 N1 O1
    N1 O1 N1 O1 N1 O1 R2 N1 O1 R4 L3 R3 /1 R4 M1 N1 O1 N1 O1 N1 O1 R3 S1 M1 S3 /1 R1 T1 R2 /4
    E5 /1 E3r /2 +1 /1 R3 T1 R3 N1 O1 R1 S1 R1 M1 R2 Ia R2 S3 R2 Aq N1 R1 O1 U1 L1 U1 Bq N1 S1
    O1 S1 N1 O1 R1 N1 O1 R2 Ea D1 E19 D2 Ev /3 E6 /2 E6 /2 E6 /2 E3 /3 T2 S1 U1 V1 T2 /1 V1 S4
    V2 /a +3 V2 /2 Ec /1 Eq /1 Ej /1 E2 /1 Ef /2 Ee /y E3f /5 R3 /4 K19 /3 V9 J1h K4 Vh K2 V3
    /1 Vd /3 V1 /1b V19 F1 /3m Et /3 E1d /f F1 Kr /4 Ew K4 /9 Ek J1 E8 J1 /5 E12 F5 /5 Eu /1 R1
    E10 /4 E8 R1 J5 /16 A14 B14 E26 /2 Ia /6 A10 /4 B10 /4 E14 /8 E1g /b R1 Ab /1 Af /1 A7 /1
    A2 /1 Bb /1 Bf /1 B7 /1 B2 /3 E1g /c E8n /9 Em /a E8 /o D6 /1 D16 /1 D9 /1x E6 /2 E1 /1 E18
    /1 E2 /3 E1 /2 En /1 R1 K8 En V2 K7 Ev /8 K9 /1c Ej /1 E2 /5 K5 Em K6 /3 R1 Eq /5 R1 Eq /12
    E1k /4 K2 E2 Kg /2 K1a E1 F3 /1 F2 /5 F4 E4 /1 E3 /1 Et /2 F3 /4 F1 K9 /7 R9 /7 Et K2 R1 Et
    K3 /w E8 V1 Es F2 /4 K5 R7 /9 E1i /3 R7 Em /2 K8 Ej /5 K8 Ei /7 R4 /c K7 /28 E21 /1j A1f /d
    B1f /7 K6 E10 F4 /8 Ia /6 Ia E4 D1 E1 Am /3 F5 M1 D1 Bm /8 S2 /5s Kv /1 E16 /1 F2 M1 /2 E2
    /g E3 D1 E2 /8 R1 V8 /x F6 Et Ka E1 /8 Em Fb K4 R5 /m Ei F4 R4 /12 El K7 /k En /9 G1 F1 G1
    E1h Ff R7 /4 Kk Ia F1 E2 F2 E1 /9 F3 G1 E19 G3 F4 G2 F2 R2 +1 R4 F1 /a +1 /2 Ep /7 Ia /6 F3
    E10 F5 G1 F8 /1 Ia R4 E1 G2 E1 /8 Ez F1 R2 E1 /9 F2 G1 E1c G3 F9 G2 E4 R4 F4 R1 G1 F1 Ia E1
    R1 E1 R3 /1 Kk /b Ei /1 Ep G3 F3 G2 F1 G1 F2 R6 F1 E2 F1 /1q E7 /1 E1 /1 E4 /1 Ef /1 Ea R1
    /6 E1b F1 G3 F8 /5 Ia /6 F2 G2 /1 E8 /2 E2 /2 Em /1 E7 /1 E2 /1 E5 /1 F2 E1 G2 F1 G4 /2 G2
    /2 G3 /2 E1 /6 G1 /5 E5 G2 /2 F7 /3 F5 /b Ea /1 E1 /2 E1 /1 E12 /1 E1 G3 F6 /1 G1 /2 G1 /1
    G4 /1 G2 F1 G1 F1 E1 F1 E1 R2 /1 R2 /8 F2 /t E1h G3 F8 G2 F3 G1 F1 E4 R5 Ia R2 /1 R1 F1 E3
    /u E1c G3 F6 G1 F1 G4 F2 G1 F2 E2 R1 E1 /8 Ia /4m E1b G3 F4 /2 G4 F2 G1 F2 Rn E4 F2 /y E1c
    G3 F8 G2 F1 G1 F2 R3 E1 /b Ia /6 Rd /j E17 F1 G1 F1 G2 F6 G1 F1 E1 R1 /6 Ia /6 Ik /s Er /2
    F1 G1 F1 G2 F4 G1 F5 /4 Ia K2 R3 V1 E7 /55 E18 G3 F9 G1 F2 R1 /2s Aw Bw Ia K9 /c E8 /2 E1
    /2 E8 /1 E2 /1 Eo G6 /1 G2 /2 F2 G1 F1 E1 G1 E1 G1 F1 R3 /9 Ia /1y E8 /2 E13 G3 F4 /2 F2 G4
    F1 E1 R1 E1 G1 /r E1 Fa E14 F6 G1 E1 F4 R8 F1 /8 E1 F6 G2 F3 E1a Fd G1 F2 R3 E1 R5 /d E21
    /7 Ra /2e F1 G1 F3 G1 F1 G1 /2g Ex R1 /e Ia /6 E9 /1 E11 G1 F7 /1 F6 G1 F1 E1 R5 /a Ia Kj
    /3 R2 Eu /2 Fm /1 G1 F7 G1 F2 G1 F2 /21 E7 /1 E2 /1 E12 F6 /3 F1 /1 F2 /1 F7 E1 F1 /8 Ia /6
    E6 /1 E2 /1 Ew G5 /1 F2 /1 G2 F1 G1 F1 E1 /7 Ia /6 E15 D1 E2 /4 Ia /6u Ej F2 G2 R2 /7 F2 E1
    G1 Ed /1 Ey G2 F5 /3 G2 F1 G1 F1 Rd Ia F1 /2d E1 /f Kl V8 T4 Vh /d R1 Epm /2u J33 /1 R5 /b
    E5g /218 E2p R2 /d Ets +g F1 E6 Ff /a E32z /5 Eg7 /5a1 Eu Fc G3 F3 Ia /1c6 Eft /7 Ev /1 Ia
    /4 R2 E27 /1 Ia /6 Eu /2 F5 R1 /a E1c F7 R5 V4 D4 R1 V1 /a Ia /1 K7 /1 El /5 Ej /c0 D3 E14
    D2 R3 Ia /5i Aw Bw Kn R4 /5 Ap /2 Bp /18 E23 /4 F1 E1 G1j /7 F4 Dd /1s D2 R1 D1 F1 /b G2 D2
    J3 /9 E5p2 /15 Ew /2p E37 /6pp D4 /1 D7 /1 D2 /1 E83 /f E1 /t E3 /2 E1 /e E4 /8 Eb0 /1s4
    E2z /5 Ed /3 E9 /7 Ea /2 V1 F2 R1 +4 /318 V6o Ia V3 /3 Vc4 /6 Vn /f Vg S1 /f F1a /2 Fn /9
    V38 /1o V6u /a V13 /2 V1o G2 F3 V3 G6 +8 F8 V2 F7 Vu F4 V1p /l V1u F3 V1 /3e Kk /c Kk /c
    V2f /9 Kp /3r Aq Bq Aq B7 /1 Bi Aq Bq A1 /1 A2 /2 A1 /2 A2 /2 A4 /1 A8 B4 /1 B1 /1 B7 /1 Bb
    Aq Bq A2 /1 A4 /2 A8 /1 A7 /1 Bq A2 /1 A4 /1 A5 /1 A1 /3 A7 /1 Bq Aq Bq Aq Bq Aq Bq Aq Bq
    Aq Bq Aq Bs /2 Ap S1 Bp S1 B6 Ap S1 Bp S1 B6 Ap S1 Bp S1 B6 Ap S1 Bp S1 B6 Ap S1 Bp S1 B6
    A1 B1 /2 I1e Ve8 F1j V4 F1e V8 F1 Ve F1 V2 R5 /f F5 /1 Ff /uo Ba E1 Bk /6 B6 /5x F7 /1 Fh
    /2 F7 /1 F2 /1 F5 /5 D1q /x F1 /34 E19 /3 F7 D7 /2 Ia /4 E1 V1 /8w Eu F1 /h E18 F4 Ia /5 T1
    /cw Er D1 F4 Ia /5y Eu F2 E1 Ia /4 R1 /5c Ev /1 E3 F1 E2 F1 E7 F2 E5 F1 /8 E1 D1 /68 E7 /1
    E4 /1 E2 /1 Ef /1 E5h /2 K9 F7 /15 Ay By F7 D1 /4 Ia /4 R2 /lt K1n V1 K3 T1 K4 /24 K19 V1
    Kf /5e E4 /1 Er /1 E2 /1 E1 /2 E1 /1 Ea /1 E4 /1 E1 /1 E1 /6 E1 /4 E1 /1 E1 /1 E1 /1 E3 /1
    E2 /1 E1 /2 E1 /1 E1 /1 E1 /1 E1 /1 E1 /1 E2 /1 E1 /2 E4 /1 E7 /1 E4 /1 E4 /1 E1 /1 Ea /1
    Eh /5 E3 /1 E5 /1 Eh /1g S2 /7i V18 /4 V2s /c Vf /2 Vf /1 Vf /1 V11 /a Kd V4h /1k Vt /d V18
    /4 V9 /7 V2 /e V6 /4a V6z U5 Vk9 /3 Vh /3 Vd /3 V62 /6 Vc /4 V1 /f Vc /4 V1k /8 Va /6 V14
    /8 Vu /2 Vc /4 V2 /e S9 /13 V9k /8 Ve /2 Vd /3 Vb /3 V1l /1 V1 /4 Vg /2 Vc /4 Va /7 V43 /1
    V2k Ia V1 /sl Ewyo /w E3dq /2 E4ge /2 E5rl /f Eha /1wi Ef2 /15u E3t7 /5 E6ju /f5vr +1 /u
    +2o /3k F6o /1e6o *1eke /2 *1eke /2"

/-- The runs of the table: first and last code point, with the mark of the category. -/
def runs : List (Char × Nat × Nat) :=
  let close (state : List (Char × Nat × Nat) × Option (Char × Nat) × Nat) :=
    match state with
    | (done, some (mark, size), start) => ((mark, start, start + size - 1) :: done, start + size)
    | (done, none, start) => (done, start)
  let final := runTable.toList.foldl (fun state c =>
    if c.isWhitespace then
      let (done, start) := close state
      (done, none, start)
    else
      match state with
      | (done, some (mark, size), start) => (done, some (mark, size * 36 + base36 c), start)
      | (done, none, start) => (done, some (c, 0), start)) ([], none, 0)
  (close final).1.reverse

def set (categories : List Category) : CharSet :=
  let wanted := (all.zip marks).filterMap fun (category, mark) =>
    if category ∈ categories then some mark else none
  .ofRanges <| runs.filterMap fun (mark, range) =>
    if mark ∈ wanted then some range else none

end Category

end ValuePipeline.Text
