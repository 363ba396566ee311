namespace Covenant.Text

def frequentWords : String :=
  "WITH SMALL LETTER abac 1ad CAPITAL afac 1ag AND SIGN aj0 DOUBLE LEFT 1ac ABOVE RIGHT WHITE PLUS 2WEST-CREE aj1 DOWN
   ONE SYMBOL aw0 UP TIMES 0aq MARK BLACK 0a* BELOW a,1 LONG OVER HALF 1aj FACE a^0 ARROW DOT OF TILDE RING LIGHT TWO
   0am MIDDLE OPEN OR VERTICAL 0ap a!0 3az RIGHTWARDS MEDIUM ao2 THOUSAND CIRCLE SQUARE DIAERESIS A_2 VOWEL bsaj 1bt
   HUNDRED HEAVY HOOK SINGLE a!aa ~1_2 HA LEFTWARDS DOWNWARDS a,2 ao1 a&2 HORIZONTAL STROKE a&1 FOUR TURNED TONE SHORT
   REVERSED MEEM aab) ISOLATED FORM cb3 FINAL INITIAL cacccdcccecc MEDIAL cb2 cgch cfci BAR YEH TRIANGLE-HEADED a&0 1ap
   IN MACRON INVERTED INDEX DIAMOND AI OE NOT UPWARDS TRIANGLE E_3 ~6_2 LAM HAH HIGH UPPER A_3 3a< HORN ASH
   GREATER-THAN 0bk JEEM aac| 0b* 0bw ON TAIL TRIPLE ~1_3 LOW 3dc ~3_2 THREE FIVE DIAGONAL LOWER CIRCLED CLOSED NOON
   LIGATURE LESS-THAN aaa% aab= 2ab FULL STOP drds dt1 3c+ NUMBER AE COMMA DOTTED 3bb aac* 2ap bib* ~2_2 LINE LARGE
   ARROWHEAD U_3 aiap DIGIT ZERO d^d| 2av 2bb 2df 2b^ d(d)d. 2dg SIX 2ec SEVEN 2ee EIGHT 2eg NINE 2ei eaebedefehej
   d!d%ek 1el 5ar O_aa aheo LITTLE THUMB cdch 3cz ALEF DOTS CROSS TOP DASH BREVE cacb4 doao E_2 2SA_2 LA 2e, e:2 bibk
   ORKHON 3e= S_2 ANGLE O_3 I_3 3e% 3df U_2 3e! MA_2 2fb ao4 YENISEI 3fe KHAH BRACKET PARENTHESIS 3d= cdcb4 3av HARPOON
   BARB fmaafn bgck dy1 R_aa YU AA ALPHA TACK SEEN BOLD BENT O_2 2al 0al bx3 aaf* THE AIN RIGHT-POINTING QAF IGI
   SQUARED DISH CENTRE SANS-SERIF 3dg cach 0b+ 2fz 0cx aib< 1am NORTH WEST gdge 3ay TEN ALTERNATE TAH STAR BOTTOM
   CORNER HAND A_4 SOUTH EAST gpgq 2cd aw1 aeeo ~4_2 3b| KAF VA REH UE ORNAMENT POINTING STRAIGHT a!1 euMAKSURA doa,
   aiam 3N a^aa cacb HAND-FIST 1g| PALATAL g%f* aag( ~5_2 CHE THA FA HEH SAD FEH BLOCK U_aa KA_2 bn3 KA_3 ahhh bo0
   GLOTTAL hnds aaal abaf anhq dpae VERY htbw bicx dpah e&ae HEAD YA NUN WAW OMEGA COLON LEFT-POINTING ARCHAIC NYA
   VIRAMA AT NGA MOON TENU SCRIPT WAVE RAISED hz2 PA_2 2h. I_2 2ib dfev bkbi SIDE erif CURLY ihfh 0c> e&ah 0c, g;ae
   OPERATOR in0 ~7_2 NEO_3 QUARTER BA CHA TRIANGULAR SECTION HI INSIDE LOOP SUBSET UNDERBAR 2e* 2gh aehh a!ao bib+
   1HAND-HINGE GRAVE aii< 1ab aj2 2ba ESH OO TSA DIGRAPH LI LU PHA PUNCTUATION BEH DAD UD ACUTE INTERSECTION SUPERSET
   EQUAL jjTO jk0 a,ae 3al 3b&3 cyd< ZA_2 2NA jr2 0dn CURL aaju 1jc DESCENDER aajx jyae crez g;ah 2ac b&2 SEPARATOR RHO
   SHA GHE TEH HAMZA CIRCUMFLEX CANDRABINDU NUKTA YO ASTERISK FOR BOX NEUTRAL SLASH EQUALS SHEEN HINGED CONJOINED
   ANTICLOCKWISE MINUS UNION SLANTED 2TA 2DA kl2 bbev 4U ko4 A_aa 2h> 3T a=a* E_aa 3RA j(0 I_aa aia% a,ah 2au aaab gdgq
   2bw 2am bgd: M_2 MODIFIER 0k<ac SHELL TORTOISE_k> k^fh cacces bfjl bp0 HEART k)0 ARCHAION la3 WORD FIFTY HO GHAIN GU
   CA SSA EE GHA CURVE ROTATED GUNU GISH CROSSING GAR MOUTH THO IOTA EPSILON OGONEK cecb4 3b^ aaj^ cech 2JA l$2 I_4
   RETROFLEX l+f* e|fh aakn ln4 b<b= 3au 5aa g*cs JA_3 bo1 CARON aal( l)ae cy0 jgae aimb 0b| ao3 REST mf2 KOET_2
   2C-SIMPLIFIED 3lp MAN IE DHA LE ZHE CHI DOTLESS ANUSVARA JHA EIGHTH BI PHI CYRILLIC LEAF POINTED UP-POINTING 3L 2lh
   aabx GA m+2 2m, j;2 bgb= fng, cdcb m>7 3MA 3j;3 a!2 g&1 cecb6 2HE_2 RA_2 4ap dp3 CONSONANT 1ndaj a(SPADES c^bz FROM
   nhck a!ni HEARTS a(nk OVERLAY nm1 a(DIAMONDS a(CLUBS V_2 ROC_2 COMBINING OLD RISING PAP GI GUD U2 BETWEEN
   EXCLAMATION FILL EARTH TIP CROSSED POINT DASHED SOLIDUS PERISPOMENI NOTE GAMMA RED CLOCKWISE LOZENGE PRECEDES
   SUCCEEDS e+b& gk0 bpfh gy2 WA_2 1al 3PA 3gh ew0 aacles 2ay m+3 3DA 3SA h&2 awj) aidi N_2 ACCENT i<or 2od 0ns aac.
   QUESTION owa& diap 4dc jyah aabd o&a) SHADE blo+ aal, 0ab bn2 0b( R_2 0dj 0bp 0ex SPACE o%0 2f, SYLLABLE CHECK
   TWENTY CAT SHE TSE SHIN OUT ZHA LLA LO FRACTION VOCALIC VISARGA END HU GO HYPHEN WATER SOFT YANG MUSICAL THETA
   FINGERS EYES PERSON FLAG DOWN-POINTING OCLOCK SMILING TEDUNG VARIA OXIA ARC 2e. 3NA 3D EQUILATERAL_d< 2is iajbp| BHA
   2p% fch)RA p!p(p) 3hz 3e, pna( aicq aaid 1HAND-CIRCLE KHA qg3 fkb) flbv cser kqez i%2 LATIN qnag a%a, 1a& bjgo GAN2
   h|4 qsqt c)am3 aag: fkcles qwqx c)ap3 kcaj 1HAND-ANGLE c%bz m*ae ali< E_ly bxao aiq; PA_4 aia) BAD q^4 a(0 pd2 RO_2
   ~8_2 ln2 3q. 2bg DAGESH aarc rd2 THIRTY THIRD BACK DELTA AY ENG FE BELT LENGTH ANG ET QUADRUPLE BU TSHEG SHO
   KATAKANA CURVED SOUND BO REVERSE CO FI SEMICOLON PHO SHAN KASRA PSILI ETA ALTERNATING RTAGS CAN SIMALUNGUN DASIA
   5r|ai R_3 ck2 b!r( aaam 3it3 PE_2 2sb cwjl lj3 2MO p^1 4m+4 avmthg RRA 2sj 0ay L_aa 1aw fhbh byf$ BALL_0 g,ge e,4
   jgor l)ah aap,5p: COPTIC aentsw 4b& 1aa ahntsw 4am 1af qa3 2aj hc2 2s: ~9_2 2dc Y-CREE 2s> GREEK LEG WAVY NUMERAL YE
   BETA MEM WU GIMEL RESH TWELFTHS ZAIN CANDRA SUN SALT ASH2 LAGAB TAK4 KUR LAL SHAR2 TWELVE ROUNDED PRIME FIRE MAI
   BARRED FATHA DAMMA UPSILON KNIGHT FISH INVERSE CEDILLA SCHWA 3ec E_4 d$e)lx mr2 fte(II fjUU t<t= csbd B_4C_4D 4t,
   O_4 4t% R_4 V_4W_4 got|t!F_4G_4H_4l*J_4K_4L_4M_4N_t(P_4Q_4t)S_4T_kpt.X_4Y_4Z h<2 3ee 3eg 3ei t:f%t+ucudue d!fluf 2pb
   t;pm j|2ui aacl j>ao ama= TA_3 3un S_aa lj2 m|3 ryn< diam mya* uuoa h+1 3cd 2j%2 3ap a*2 0s| DANDA u*oeu* 1u+
   LEFT-STEM_r) a,0 euaa qwe$clf( bday f)bz ARABIC 0u| a,4 MOVEMENT-WALLPLANE 1u( aeku a=a. A_ly DOES_cw ALMOST vdjl
   cya$ a)in KO_2 MOVEMENT-FLOORPLANE 1vi aaa. 2MI ft3 0b< 2TE 3S ~2_3 p=3 3M a%2 cp2 2ALPAPRAANA 2MAHAAPRAANA 2NASKAPI
   avd$2 TREE FIRST TAU YAT YOD VI TSHA GE ALEPH BETH NNA DAL THEH ZAH AB AL MADDA SHAD LUM IM GESH2 NYI FU YI
   IDEOGRAPHIC VO CHO NYO YIN SIDEWAYS CARET OMICRON UNDER FORWARD EYE EZH KING HANDS PAGE KEY NOTCHED SUIT BUBBLE
   BULLET NOR INTEGRAL kk2 hiqg 2h;2 3Y ap5 YPOGEGRAMMENI aiw< f|TO AU_2 w+m:lk m&2it w!l& w|krw%ms TTA TTHA DDA 2xa
   w)2w.xb w,xc2 DDHA 2v> w*hb xgkmmm xexfxhjr w^w(xdxi 3C 3H acbr TONOS aaxn aw3 d^av lwb) xrlz SHADOWED_aq QUOTATION
   xucn w&0 kv3 aacr 3hk em1 dcd: bwg< TE_3 WE_3 0nt AN_4 ABBREVIATION 1x< x=at j,1 VARIANT x|cb 0bg YUS eqx( O_ae 0qn
   yaad G_aa e$b)f( bder Y_aa a(CHARACTERS px0 a|g> gpge a(BAMBOOS gn0 gkc( boaa aabqah CIRCLES a(yp g&0 m*ah araj
   LOGICAL yuai cya+ SALTIRE yx0 5r:aip, 5r:aip: aar:5r|yzr!p,y$r!p: 5r:ain= y&y*r!n= iza( PI_2 ao0 2TO_2 ph2 3WA y>3
   2h) B_2 H_2 2gx 2ug 2ns 2aa WOMAN NINETY SUBUNIT STATERS THIRDS THOUSANDS BUR XA JI AH ICE EI HHA DZ CLICK ZAYIN
   ELEVEN INDICATOR EH HAA AVAGRAHA OM LHA CRESCENTS BIRGA AM DZA MUSH USH OPPOSING TUG2 KAK SHESHIG ESH2 SAL TAB SHU
   BEGIN MEN OU EU SECANT VOICED CHARACTER MALE MOUNTAIN BUT JOT MAHAPRANA LONSUM ELLIPSIS OVERLINE APOSTROPHE ANO STEM
   FINGER PARALLEL DRAGON GREEN QUEEN HORSE TELEPHONE ARROWS COMPRESSED CHESS DIVISION CENTRED DIALYTIKA SHEI ABKHASIAN
   CONTAINS amTO m$3 1dw jgah w:3 h$2 plt)RR but>3$> i%3 d%bv TO_0 5d; xua& 3tx 3ab 3ld BIG_x( 3is &d3 $+di bd&f w)3
   cy1 EN_3 h>3 ap4 dpai 2NE c.3 j^or amfi qb3 erwp YIG_MGO alm< 2NO &v2 RI_2 cu3 2ub i)3 RU_2 fs2 2WE 2WO_2 2SO &:2
   TI_2 2br becz 1b! KRYZHEM S_&| gmfh c)a*bp KU_3 b<ck b.lz ITALIC *baf SPREAD dgpw*d a.eq bd*f NEGATIVE *hdj 0f> G_2
   bp1 PINWHEEL *moa b^ev bcob aamb lyae K_2 0bb bhob aa$; lyah aat& *xae aufv j>bm m*ao PAIRED_$u ELEMENT *+a( NORMAL
   *:SUBGROUP L_2 g*BUD do0 ai$; jia( aai$ aob* TO_ck a!*( cm*) P_2 aabqae 0gl aabo T_2 KOMI ae+f v.2 p|2 2i(2 b!2 2FO
   FORTY SEVENTY SECOND TALENTS OBLIQUE EF VEE FISHHOOK LAMEDH SAMEKH FILLER LL JOINER SIDDHAM SUKUN LAGAR GAL UN MASH
   GAD SHU2 UR MFON MON TAM SEE MID MILLIONS SLOAN KLYUCHEVAYA JAPANESE HANGUL BY HAT DZE THORN KHO RUPEE AMPERSAND
   KATO MULTIPLE TONGUE DOUBLE-STRUCK KAPPA SIGMA MOVEMENT ZIGZAG LIPS HAIR BACKSLASH RAIN MOUSE SHOE BLUE SPEECH EMPTY
   AIRPLANE SHIMA TICK MARKER PROSGEGRAMMENI TURNSTILE OVERBAR QUADRANT OUTLINED TWO-HEADED BESIDE SIMILAR II_p<UU
   brftic,| DEGREES lmzc,%2 etcu avir aw2 2pf2 of3 3h* c=4 3MU 3G p>etF_:g e(J_3K_$,M_g= faP_3Q V_3 S_ksfj:kW_3X :l$<Z
   c:B_xk:hxl:i:j3r%:m h;3 2wf $:gh a%jc faAU_a> ,):s bwd> ICHOS :v4 $:av og3pb e;pi cofi 2MU 3ZA_3 wf3 QUAD 3:, m;lin.
   oc:; 2:< TU_2 kt2 d(ev aam< n$b> bebo NE_3 tm4 j.0 SE_3 aekx daey AN_3 2KE_2 2SE_2 KI_2 pj2 3c: rr2 nw2 ZI_2 TI_3
   l+bx aa;o TAW :b;q 4h$ 0d; ao5 i&cuf. ;vxjp.e; ;w:< ivb> iwaz POVYSHE MALO_;$ a%0 1MU aeb( n$a& INSULAR ;;G g^8m^
   c!e$c*e$fg e$b)e$g:e$clf( ;>;^ U_4 1k<ac cgcb4 b.;(hdci m^lz aafg g!t^ cs*f AU_3 2le HITTING WALL <fFRONT_<g <fCHEST
   lr0 dy$)g& aqhm s|oh gabz bigr ,%a+ 2f: RA_4 CEILING <f<s ENVELOPE <u0 biamap ,%0ka a=hg aekq *xah qebm ROUND <*a%
   zi2 KASKAL <:4 FLOOR <f<< 1a* ,%a$ aad:jm albz aa,: bak$ bpa+ 2b( qdah iebw THROUGH a!=c MULTIPLICATION =eaj 4ab
   ah+f 2pi tl2 3ja3 h|2 z|2 2c+ 3b( 2DO n>2 a,3 be2 PLASTICS_3 2PALI SAYISI 2=v SASAK_2 2TUAREG MONOGRAM SIXTY MEASURE
   BOW TAI YERU ZU ETH EAR NJE PEN SUPERSCRIPT HETH KAPH SADHE CRESCENT THAL AD AEN GAF NAA SHADDA RAYS UA SAG ERIN2
   GIR2 DUG SAR SUM GAN TAR NDA SET TOO VU AV SIXTEEN TONE-2 ATTACHED VYSOKO ZAPYATAYA SVETLAYA ZAPYATOY LENTICULAR
   FEMALE HOLDING CORNERS WIND TIE XI LOO IOTIFIED YN KAVYKA SHWE BROKEN IS VOLAPUK MURDA VAV KEHEH KAI BARLINE SHARP
   FLAT CONTACT MATHEMATICAL PSI HAND-CUP CUPPED HOOKED NOSE WRINKLED RECTANGLE BRIDGE BELL BUTTON DAGGER NARROW SHAFT
   KOPPA KHEI HORI GANGIA DIGA SUNG CARRIER INFINITY N-ARY IMAGE STILE EXTENSION TEARDROP-SPOKED SUBSTITUTION ai,+
   ,!2pl 4b^ m>6 qnad 3lt 4bl 3HE_3 3NU_3 f%bv 0wg h)RA_e; =^eu c,ap EQUIVALENT |f$% foap bag< ab3bl3d; |j2 e%e! TU_3
   lqa<lq owb> 1^! pd3 0NO e|0 jk1 PRODUCT |u0 2s) 3aa 3bg 3bo SU_2 JO_3 a;s! i*uh$! ajuj KO_3 4L_4+x $^|; an^>R_m$ 1ns
   lh4 ar:e NI_3 1zw 4pd4 2THESPIAN 1bs SI_3 W_2 dt0 S_KHOKHLOM all: bcaq b!b> SU_3 TH_2 ~8_3 J_2 ahb( ~4_3 ah>= ae>=
   O_ah yaag D_2 dp=cjx aeb| CROSSED-TAIL aa!u av4bb4df 4dg4ec4ee4eg4ei !w^^!x d!4!y cecb7 FARSI_cl =:2 d&oi ayl> 1fx
   csfy qft^ 2CE_2 CAR_0 ZE_2 0mk 3af 2RHA FOLDER !(0 EXTREMELY_bw g,gq BOOK_0 bam= 0df blm= aqe< owcn hlbq bwm= ahku
   aijg j!2zv a>%l$^ 4c+ INDEPENDENT SVARITA %o%p aad:kz 3tg 2bt a)0 kyjm bcap |fTO NOTATION Z_%y bwoj aley FALLING
   %*dh bef| aobk wz0 0da aokcak 2b% 3wd fp0 0dz hc3 QA_2 :p2 3>) 2v^ STAFF_2 NOTEHEAD (c2 2HEEL 2HUMP >,2 ORE_3 2^$
   TWE EIGHTY BEE LAMDA DIVIDER YEE TEE DEE JEE XE HENG YODH AYIN LOGOGRAM AQ CIM UM YOT NNNA RAA WAA SANDHI NHA
   U-SHAPED KSSA GEMINATION AB2 KISIM5 DIM DUB HAL TUR KUSHU2 TAG LU2 PAD GESHU SHARU BURU NJI MAP MBA YEN NJEE HOUSE
   RAE REE NGGA KPA VOS KOO FIFTEEN EIGHTEEN IU TONE-1 OA LEFT-TO-RIGHT NIZKO NEPOSTOYANNAYA FITA REPEAT VARIATION
   IEUNG CIEUC MV HOT CUP QU GEE KAN WOO POO SOO ROTUNDA SIXTEENTH KHAMTI KAREN ARMENIAN WIDE PEH KIRGHIZ FATHATAN
   DOLLAR FTHORA CLEF DRUM ALL DIGAMMA PALM SCISSORS ARM BREATHY CARD NEW SCREEN UMBRELLA CLOUD DOG RICE KEYBOARD NOTES
   FLOWER BUILDING MONKEY TURTLE YELLOW CURRENCY FILE ORANGE SEMICIRCLE BALLOT ROCKET INTERROBANG ONCOMING PLACE
   SUBLIMATE SPOKED EIGHTHS POINTER SAN IZHITSA ROOT PARAGRAPH ANUDATTA TALL PWA GEORGIAN PII MEASURED APPROXIMATELY
   OPENING PENTAGON lmbbbv .bm+n,%2 WRIST_FLEX $|AU_a> c%cmbz g*BACKHAND_cs LUNATE .bs,n xmibe. ALI_GALI TETH 2=|2.bw
   2dwav PEE_3 LARGEST ab^(4d;4.b$ htab GGA_2 2IDEOGRAM pkava= TAMIL nt.b; TEXT qc.b= hkqhok 1SUBJOINED .b|ac bjA_ar
   U_x|cc TAA_2 YAA_2 CUBED_1 o&bxae o&bxah ah;; +qb=ae ae;; etsecu +qb=ah claaul uk^|g: c!lwc*lwfg .ckxs ua&aua
   1HAND-OVAL 1HAND-HOOK by2,j2nz1 *hf> 3KET_3 ANTIMONY a(.cs dg.a%kw gacmbz ^t.cv 3MBAA 0BABY ec.a%kw c^cmbz ^t.c$
   fnm%gq f)cmbz ^t.c+ biayau fnm%ge vdjk k&u|acgj BLACK-LETTER_af SEMIDIRECT_|u jkbfdn c%foay c^foay 0,laf 0h!af 2NGO
   2OJIBWAY WINE GOLD HELMET CHARIOT WHEEL BASE UNIT FOURTH QUARTERS ZATA ZETA THEE DEZH TESH DALETH LOTUS WITHIN BARS
   LLLA DDDA VEDIC TRIDENT DZHA CLOSING DUN3 BALAG SHA3 NAGA LUGAL SHIR BAN2 START SHEE SHII KYEE THIRTEEN FOURTEEN
   SEVENTEEN NINETEEN ITERATION TIKHAYA PROSTAYA POVODNAYA POSTAL KATAKANA-HIRAGANA KIYEOK NIEUN TIKEUT SSANGTIKEUT
   RIEUL MIEUM PIEUP SSANGPIEUP PIEUP-SIOS SIOS HEAVEN PARENTHESIZED NAME NIGHT TOGETHER RETURN RADICAL LENGTHENER
   MONOCULAR HARD EXTRA-HIGH EXTRA-LOW EGYPTOLOGICAL CUATRILLO WYNN TTHO ADEG SPIRAL WITHOUT PATAH DALET LAMED QAMATS
   TCHEH GHUNNA GOAL BARREE VERTICALLY DAMMATAN KASRATAN ALAYHI ALAYHE TITLO COMMERCIAL TATWEEL WIDTH POUND EKFONITIKON
   DIPLI KLASMA TROMIKON YFESIS DODEKATA BEND DEGREE PIECE NABLA ROTATION-WALLPLANE ROTATION-FLOORPLANE SHAKING THEN
   SNAKE POSITION TILTING KISS JOKER FIGURE LIGHTNING MEAT BONE KNIFE BOTTLE RIBBON POLE TIGER BIRD SILHOUETTE POLICE
   ELECTRIC CANCELLATION LOCK HAMMER CLOCK PENCIL SWASH RAILWAY THIN FINGER-POST LEFT-FACING RIGHT-FACING FOOT TOOTH
   PAPER ROOK BISHOP PAWN FEATHER TOPBAR SAMPI SHHA ARABIC-INDIC SUBSCRIPT SYRIAC DOUBLED UDATTA THAN EVEN NYIS RDEL
   KWAA SEBATBEIT THAM REPA SATANGA FLATTENED MIDDLE-WELSH RIGHT-TO-LEFT SUMMATION SQUIGGLE MEMBER IDENTICAL ORIGINAL
   HOURGLASS JOINED FLORETTE ARROW-TAIL SQUARES APPROXIMATE ELLIPSE KAPA SIMPLIFIED bdw;w> df.dj .a(hg1 3xa3xe3 +v2(v
   bd$+c, 3PE_3=% 3pf3;q .ewaj PARTIAL_DIFFERENTIAL jn3r< $wEQUIHOPPER RR_3+xbuplL_4+x 2pl.hr acv<2v=2 :o&hw..hiv> 2TET
   3rf3+m&b3=$3+n .hw3(k3zc 2BBA GLASS_0 OBOLS_at 0ROMAN e*ibfze. kna<av:r r%RR_$,+x an^>.h, JIHVAMULIYA_2UPADHMANIYA
   a>.h; lk3&klhsa 4f=l< 2FEE_2 nvarLU3 KU3_4 .d(cn 2BET HIRAGANA 0.h)ac GORAZDO .ia)x aadhb=ah aadhb=ae FLOURISH aa.ie
   THAA_2 =+LAING ETHIOPIC_o. aagzfktfqifkdl .ijfkg:qx .ckxrlwhdlz LAA_2 f(cgcb1 aq5a* 3NTAP NTEUM_3 NYAM_3 h(KNUCKLE
   A_5B_5C_5D_5E_5F_5G_5H_5I_5J_5K_5L_5M_5N_5O_5P_5Q_5R_5S_5T_5U_5V_5W_5X_5Y_5Z 1HAND-CLAW ~11_2 SHI_2 4.fi3 jd3c|
   h^aaa| FOOD_0 0pyaa $tRECEIVER g*mx0 g*VINE .i,mx0 CHECKER_BOARD COPPER a(.i< CONTAINING .i>a*ab eg.a%kw
   ISOSCELES_ap&i ^t.bq iu,.hg am3ap aqa!.drjp l;.e( i&uqcu fa.bph< CENTRALIZATION_b= .gsad 1ayfv POWERS_a(b^ j)ODD_.jg
   aaQUILL bbHEADED ^+a(bf yubf a!b*a( fph=qcl= SHOGI_.fp aa,&cp WIGGLY .jqFENCE SINGLE-LINE .jssd DOUBLE-LINE .jujj
   DIALECT-P ah.jw CRYPTOGRAMMIC ae.jy ISOLATE_0 aokjjj dk,bll ,=bzcyARROWHEADS ae.jw ah.jy 2GREAT ntNUBIAN ah.j< ae.j<
   2CI_2 THI_2 AS-SALAAM_2 2JACK 2SANYAKA 2J-SIMPLIFIED DEER WHEAT MONTH DRACHMA MNAS EPIDAUREAN DISC CHILD SHIELD CLUB
   SHIP ROSETTE CHEE ZHEE FENG LEZH BILABIAL QOPH FLEURON TINY SOGDIAN NGAA HEADSTROKE MARK-1 GRANTHA BINDU PLACEHOLDER
   INSERTION ANJI REPETITION SWIRL HALANTA HUNDREDS SIXTY-FOURTH THIRTY-SECOND TENTH SIXTEENTHS FACTOR CREDIT CURRENT
   IMIN SHESH DIM2 AMAR ANSHE ASHGAB BAHAR2 BULUG HUB2 GABA LISH NINDA2 SIG4 URUDA SIXTH SEGMENT MEUT LEERAEWA SHOQ
   NSHUT MAEM NSHA MBIT NGOM SEUX NJAEM NGGU KUOP NDAP NDEE MEEEE NTEE MUCH PUAE CALL COVER PEUX REUX TENS TLHA
   REFORMED NASALIZATION SELECTOR OVERLAP STEP TSATA STRANNO MRACHNAYA STRELA GROMNAYA GROMOPOVODNAYA DEPARTING FEED
   PART RIEUL-KIYEOK RIEUL-MIEUM RIEUL-PIEUP RIEUL-SIOS RIEUL-HIEUH SSANGCIEUC CHIEUCH KHIEUKH THIEUTH PHIEUPH HIEUH
   SSANGNIEUN KOREAN IDEOGRAPH SCHOOL PEACE WORK POWER OPPOSITION INCREASE THUNDER COMPLETION MBOO THOO SHOO NGGOO NGGO
   NGGE DANG DZELO DJERV CCHE PING STRESS POLISH LONGA DEVANAGARI SPACING PADA AITON TONE-5 ALTERNATIVE MAPIQ TSADI
   TTEH HYPHEN-MINUS PERCENT MARBUTA NO-BREAK PARAKLITIKI KENTIMATA ISON PARAKALESMA ALLO APLI KORONIS DIATONIKI
   SKLIRON CHROMA STIGMA WHOLE TURN PERFECTA HUMAN ETERNITY BRUSH SYMBOLS SEQUENTIAL TENSE SMILE OVAL SHOULDER LOCATION
   STRETCHED LAKH TILE OVERLAID FREE MASK SNOW BOWL CAKE FORK CHRISTMAS BALLOON PARTY MILITARY CONTROL DESCENDING
   CAMERA TENT DIRECT RUNNING STICK TABLE CONSTRUCTION BANK LOVE CASTLE CHICK FROG WOMANS CLOTHES GHOST INFORMATION
   STONE PURPLE ANGER SLEEPING THOUGHT CHART CALENDAR LETTERS DOCUMENT PICTURE BUBBLES KISSING POUTING CRYING FROWNING
   SLIGHTLY SUSPENSION TRAFFIC SPIRIT BRICK BROWN SHADED LEFT-SHADED RIGHT-SHADED FIST COVERING SPOON SAFETY WHEELCHAIR
   CUBE THREAD SHORTS VULGAR AFRICAN UPTURN DECIMAL SUPRALINEAR SUBLINEAR RISH CIRCULAR GAYANNA JAYANNA DDAYANNA
   DAYANNA BAYANNA SAYANNA AELA-PILLA KOMBUVA GAYANUKITTA SARA GTER DELIMITER DKAR -KHYIL SVASTI ZHAR PHAR KHAR GHAN
   CHIN CHAR JHAN SHWA THWA STROKES PWAA TWAA CWAA MWAA NWAA SWAA BLACKFOOT YWAA N-CREE THII THWAA TYPE MUOY BUON PRAM
   PRAM-MUOY PRAM-PII PRAM-BEI PRAM-BUON TODO MANCHU RATHA PARENTHESES MANDAILING KARO YAJURVEDIC KATHAKA FIFTHS
   OPEN-HEADED DIVIDE NEITHER TRUE RELATION MULTIMAP BOWTIE COMPOSITION BRANCH SNOWMAN FLORAL PENTAGRAM BALLOON-SPOKED
   SNOWFLAKE PERPENDICULAR SEMICIRCULAR SERIFS OVERLAPPING HEXAGON SIMA YAZH YAGH TRANSPOSITION SILK ENCLOSURE $wtylm
   EXTENDED .rq.gr (u2=!2 2ta2$= p=:cjb ,n3v&$.3mv3mp3^h:d i<5jg5j^ .rw5bq (u3=!3+u3 aaVRACHY_5cq5
   fu3s.3n^3ri3lu3.dl3r;3pv^%3,m3(m:f^.>;3wn3PI_3j: =%2.kq him,h>kkkljriais .hghg1 aa.rrd^ p)e;WA MEDAL_0 3TSI_3
   2.mn2.mo2.mp2.mq2.mr ER_3ES_3TE tc2.dp m.onzq .rs+u.rt i(2v:2z& uohbol3mm.ru&ep% g,bkg, abal$(al
   3b)3dl3fw3f:3hf3he3f< FLOPPY_DISK 2zr2tp2.d^2.d|2)r2>t2.d!2)s2.d% hg1df.hh 3kd3j=3v|3fg c,am,; BASSA_2 2AN_2EN_2
   xquf2dwgh 2rf2+m2ld2=$2+n2(k2zc :xeki*uh.sj 2TROEZENIAN 2tags$=$= .hjsc.r&2td xdxip!p(fc buPRISHTHAMATRA .kw~1
   1AU_rna& ac^>.h, GAP_+w zzaam( :tui&z m!liomjo kv&rgy.sw jq-A_2|c 0CANADIAN_SYLLABICS b!a;cd5cd3 bue%d=cz d%FIFTH
   ME_arEN_4 bjA_en 4jf4.lj2 5x|ccb^ 2MIM_2$= 2TTHAA_2 2BAA_2 SHID_4 a*>$fh altrxv SEMI-VOICED_rw MAEMBA_3 3NDAA MBEE_3
   2ZZA_2 MEGA_1 TELEGRAPH |b.tcoo 3KRYZH TRESVETLAYA 3>y3.tf 3DVOECHELNAYA SSANGSIOS 2.em2.ti2 MONOGRAPH_UK
   2NIEUN-TIKEUT_2 2RIEUL-TIKEUT_2 2MIEUM-PIEUP_2 0MYANMAR_ac ttKANG MIEUM-SIOS_2 dcapa. aaRAFE e$fklw cgcb1dm aa|df(
   2PIEUP-TIKEUT aagzf( m^m)b) aagzes c!m)b) PRESENTATION_cbj)bg a%LEADER .noNEO umb,apa=a: KENTIMA .t:NEO CHRONON_4
   :ndq:n (caq4u$ h(KNUCKLES csay2qk ANGLED_pg 1HAND-FLAT b^pwkf ebpw*d SIOS-PIEUP_2 1HAND-CURLICUE |j3.b$ ab5bl$(
   1EYEGAZE-WALLPLANE SSANGIEUNG_2 2GATHERING CJK_UNIFIED LAST_ir MOBILE .uiPHONE .a<j.aa COLD_SWEAT a|p*g> .i,mx1
   .a%j(c( bzd;sg BACK-TILTED_xt SULFUR_3 TARGET_a+.ks FRONT-TILTED_xt .fuCURVING .a|.r; .rpFORTY-FIVE 2SSI_2 MACHINE_0
   .rpavbvTHIRTY-FIVE $wws,($r,(.gk,(.gl,(ty,(.gmlmzc TWENTY-FIVE $wty.bm.u& .hqlmzc .rpdfbv)r c,w>bd
   $wb|ws3$r3.gk3.gl3ty3.gm bdapTO_dif| $wws.bn$r.bn.gk.bn.gl.bnty.bn.gm.bm+n rgaqapl| a:amd< PUSHPIN_0 rwWAVES_0
   l;fdid crabV h+SKEWED g*cxb, .r,bbao exaptv p.sk:z2.dt:= YYA_.hs f.qmxj glapr, j).gx.jg 4GSUM MCHU_r> SGAW_).
   WESTERN .vkPWO_). .bu.r*.r:n.bue%U .qz.bv 0FLYING 3KETTI JEGOGAN_4 kyaoah TIME_2 ICON_0 0GRINNING .rzp,5p: $zain=
   5n=6w=ah TRUCK_0 CONTAIN_AS CONTOUR_xw SOURCE_0 aar:aiw<r!w<yzw=r!p,w=y$w=r!p:w=y*w=r!n=w=ah $ecw|g TO_f,ap VANE_::
   b*a!4bk a$bpaa aar:ai,+r!,+yz^=r!p,^=y$^=r!p:^=y*^=r!n=^= p,w=5w<5p:w= .q>dnw$ aubwk+ d>aljnd> r.ktd*:^ ,;.pwp;
   bwk,bad> g<aljng< RIGHT-SHADOWED .waaqie OUTER_JOIN DIVIDED_,b p;kgbi r.ktd*kt BACKSLANTED_gp a*djaq avd$e) gbaljngb
   BAMBOO_2 $wws2$r2.gk2.gl2ty2.gm dn1c>0 2MUURDHAJA 2DANTAJA CLIFF_2 2WALK BATHTUB WEIGHT LIQUID HERMIONIAN DRACHMAS
   PEDESTRIAN BOOMERANG CARPENTRY NORTHERN SOUTHERN PERSIAN CHURCH DENTAL NUMERIC NIKOLSBURG RUDIMENTA ROHINGYA
   HYPHENATION ENCLOSURES TWO-CIRCLE PREFIXED DOUBLE-LINED SUBJOINER MID-LEVEL LOW-FALLING FORTIETH TWENTIETHS
   POSSESSION GESHTIN NUTILLU ELAMITE ILIMMU SIXTHS TRICOLON LAK-050 LAK-079 LAK-081 PIPAEMGBIEE GHEUAE NJAEMLI PEOPLE
   NGKWAEN ASPIRATION VOICING CHINESE TONE-7 ROMANIAN TANGENT SREDNE DEMESTVENNY PODCHASHIE CHASHKA DIRECTION STOPITSA
   SKAMEYTSA KLYUCHENEPOSTOYANNAYA GROMOKRYZHEVAYA KRYUKOVAYA HANGZHOU SSANGKIYEOK KIYEOK-SIOS NIEUN-CIEUC NIEUN-HIEUH
   RIEUL-THIEUTH RIEUL-PHIEUPH RIEUL-KIYEOK-SIOS RIEUL-YEORINHIEUH PIEUP-THIEUTH ANNOTATION PARTNERSHIP TWENTY-TWO
   BITING PREPONDERANCE FAMILY DECREASE UPWARD CAULDRON KEEPING ZEMLYA BINOCULAR UKRAINIAN PAYEROK TRESILLO SALTILLO
   SIGMOID HASANTA PLOPHU RIEUL-SSANGKIYEOK TALING RERENGGAN PISELEH PALAUNG BASELINE JUNGSEONG KAPYEOUNRIEUL YIDDISH
   TTEHEH TCHEHEH DDAHAL DOACHASHMEE UIGHUR ALLAAH WASALLAM SESAME CENTRELINE HALFWIDTH ANCHOR VAREIA TELEIA OLIGON
   GORGON STAVROS APODERMA PIASMA TESSERA PSIFISTON APOSTROFOI ETERON ARGOSYNTHETON APLOUN LEIMMA CHRONOU PLAGIOS
   MONOFONIAS DIFONIAS TRITIMORION DIESIS THESEOS FERMATA BREATH NATURAL PHRASE BREVIS SEMIBREVIS MINIMA SEMIMINIMA
   IMPERFECTA DIMINUTION-1 FLEXUS TRISEME TETRASEME PENTASEME RESPONSE PATTERN DEPARTURE CURLICUE TOUCHING SURFACE
   SQUEEZE ROTATION TOWARDS HALF-CIRCLE EYEBROWS FLUTTERING CIRCLING CHEEKS WRINKLES BLOWING MODIFIER-2 GLAGOLITIC
   CHRIVI IOTATED TAILED PLAYING DINGBAT IDEOGRAPH-4E8C IDEOGRAPH-4E09 IDEOGRAPH-6253 BUILDINGS THERMOMETER DROPLET
   BLOSSOM FRENCH TROPICAL FATHER DECORATION BOUQUET BEAMED ASCENDING ROLLER TENNIS RACQUET RACING CRICKET OFFICE
   EUROPEAN PENNANT WAVING TYPE-3 RABBIT ELEPHANT SANDAL REVOLVING FACING BOOKMARK SATELLITE ANTENNA LOWERED SPEAKER
   BATTERY KEYCAP POMMEE STAMPED FOUNTAIN WRITING VICTORY DESKTOP TIGHTLY-CLOSED WINKING RELIEVED HEART-SHAPED
   DISAPPOINTED ROLLING GESTURE AUTOMOBILE LITTER BICYCLIST SHOPPING SCOOTER VINEGAR MERCURY REGULUS ANTIMONIATE
   CADUCEUS STRATUM ALEMBIC WIDE-HEADED HUGGING PREGNANT MOTHER BADGER BEAVER BEVERAGE MIRROR HEADSTONE IDENTIFICATION
   CHEVRON CANCEL COPYRIGHT FEMININE ORDINAL PHARYNGEAL PERCUSSIVE HOMOTHETIC SEMISOFT PALOCHKA EMPHASIS GERESH
   KASHMIRI MADDAH RECTANGULAR DALATH SEMKATH WOLOSO SAMARITAN OVERLONG NEQUDAA MALAYALAM NUMERATOR DENOMINATOR ISSHAR
   CHILLU KAYANNA NAASIKYAYA CAYANNA TTAYANNA NAYANNA TAYANNA PAYANNA LAYANNA AEDA-PILLA IS-PILLA PAA-PILLA
   GAETTA-PILLA TIBETAN ASTROLOGICAL FIXED-FORM RGYINGS EASTERN TONE-3 NIEUN-KIYEOK RIEUL-NIEUN ATHAPASCAN R-CREE
   WOODS-CREE PAMUDPOD BALUDA DAP-MUOY DAP-PII DAP-BEI DAP-BUON DAP-PRAM STRONG SURANG KEMPUL KEMPLI LANTANG SUNDANESE
   PAKPAK PANGOLAT CER-WA MUCAAD MIDLINE ARDHAVISARGA UNDERTIE FUNCTION INHIBIT ACTIVATE ENCLOSING ACCOUNT CONSTANT
   PEDESTAL COPRODUCT PROPORTION GEOMETRICALLY PRECEDE NEGATED PITCHFORK RECORD TRANSMISSION TABULATION DELETE NEWLINE
   PARALLELOGRAM URANUS RECYCLING GREATER PETALLED SPARKLE DROP-SHADOWED TOP-LIGHTED BLACK-FEATHERED WEDGE-TAILED
   PRECEDING INTEGRATION AROUND ANTIRESTRICTION OCTAGON THETHE AKHMIMIC BOHAIRIC INTERPOLATION PARAGRAPHOS ANCORA
   MEDIEVAL CROSSBAR LEATHER SURROUND acv<3v=3 MYSLITE_3 l*t,gozkt($| qjd$bve)bvlxbv|at+bvucbvudbvuebv .,vtc3.dp^)
   fu4s.4n^4ri4lu4.dl4r;4pv4lt4,m4(m4MU_4NU_4>;4wn4PI_4j:4 ,n4v&4tx4mv4mp4^h4h*3 .hfdibdw;&f c,bdw;$+c, .rw5a)5bq
   EL_3EM_3&j h&3zq3=|3 .ryta3h$3+v .,yflbnd$bne)bnlxbnf%hjechjeehjeghjeihjghhjpbhjrfhj+mhjldhj=$hj+nhj(khjzc
   uri(3v:3z& h;xgkljr jsNI_2NU_&n&w fcMI_:&2ME_sf uyna&x&&RE_2RO .ee2.ef2 .eh2.ei2.ej )*2)+.r=2 .ed2.x<2 .x>2.x^2
   5df5b^5dg5ec5ee5eg5ei NIEUN-SIOS_2 .hn3=,3psaj KAPYEOUNMIEUM_2 2PIEUP-SIOS-TIKEUT_2 1j(1arat PIEUP-CIEUC_2
   OTTAVA_ALTA 2KAPYEOUNPIEUP_2 .afat.nkat SIOS-KIYEOK_2 .r$ux,n3 SIOS-TIKEUT_2 3.bo3r<4.bo2 SIOS-CIEUC_2 PANSIOS_2
   YESIEUNG_2 2KAPYEOUNPHIEUPH_2 2YEORINHIEUH_2 AZU_3BUKY_3VEDE_3GLAGOLI_3DOBRO_3YESTU_3ZHIVETE
   SHTA_.r<.$fm!=,3YERI_3YATI j%3.$gabx(3&c3.$g&c3)z 3c*3gj3cl 3je3v!3lf
   3ZEMLJA_3IZHE_3ceIZHE_e(DJERVI_3KAKO_3LJUDIJE_3.,wNASHI_3ONU_3POKOJI_3RITSI_3SLOVO_3TVRIDO_3UKU_3FRITU_3HERU
   dg.hh.r+ee.a(hg pk,.3a=d).dj COMPUTER_0 1b^1dg1ec1ee1eg1ei BE_3VE_3j<3DE_3 EL_3EM_3EN_faPE_3 pe3ham!SHCHA_3
   amWAY_.pa 0LINEAR 4gich.wu atYEAR_at PERMIC_ac SEXTULA_at $!d(bvd)bvd.bvebbvedbvefbvehbvejbv TC_i)jv3 LS_&$LZ_i)
   e;mn2i.2;ija fcME_vlsf:&js .w+zp2LATERAL_zp2ALVEOLAR_zp2 .ht.r^.r|.bx2 acA_et|lhzy> acA_bue% SE_xzQA_uo ARABIAN_ac
   .byt::yqj4 a%a<knjc
   a;.,xb%.,xrj3OW_3tb3(oxl3.bz(l3(p3(q3.kl3(r3KAY_3GAY_3+r3+s3=;3.dm3ES_3ZEE_3i!3.km3ER_3.,:rk3OI_3EW
   &yf:3zk3BRA_saEHCHA_etEIN_joHYA_e(hkEHKA_3KYA_qbm|p=faOIN_:cEHPA_omm!unEHTA_3i(3EHTSA_3v:3mmfjWA_3qhlk:*ph A_e(d=cz
   xqek:quh.sj 2HET_.hv2v+ 2=|2.r!.hjsc a%ao:|bm xhjrp.e; but>:tubj! BBE_3BE_3CE_3ha3DE_3DHE_3zmetrl3m+ 0SINHALA
   jozne(IJE_3JE_xze,3pi3ME_3:)==faPE_3QA_3RE 3;b|qx+f,fjVE_3(s p!.hyp(p)e; kr2NGHA w^w+m:.b+lkkrw%JJA ajnsmrbmuj
   a&an.dvmr 0MONGOLIAN
   goft4EB_4AMB_4EC_4ENC_4ECS_4ED_4ait!CLOSE_t,lj4+r4EG_4EGY_4zt4l*II_4EJ_4EK_4AK_4UNK_4EL_4ELY_4EM_4EN_4ENY_t(i%4.w:cv4.w;cv4OEE_4EP_4EMP_4ER_4b%ER_4ES_4ESZ_4rp4ENT_4ETY_4ECH_kpUU_4.w:g$4.w;g$4EV_4EZ_4EZS_4ENT-SHAPED_aj4US
   acc:t>3E .,z.,;.bw3.,<3(v.hl3.kq3td.hm ft4l*II_kpUU_4 ac^>r%RR CLUSTER-INITIAL_ac PAHLAVI_.,zWAW-AYIN-RESH_3zq3=|3
   .ryMEM-QOPH_3h$3+v.hl.hm iw3HII_3le3HOO_jo t,l*O_kp w+m:h>w%.,^p!fc.r%oty= w^ajmr3pm achim,h> d)EIGHTIETHS
   CULTIVATION_at koarU_ar 0LISU_ac SHITA_arlo z=2EZEN +:a<+:|n2
   .ku4goWI_4fs4hz4j%4II_4UU_t!t%roshKO_4ENY_4YUJ_4UC_4ENN_4ODD_4TTE_4NUNG_4DA_4h=4z$4rr4PU_4HIYO_4HOLO_4HORR_4HAR_4SSUU_4SII_4VIYO
   .hu.r(.,>3.dx tkazU_a<tkaz ONE-HUNDRED-AND-SIXTIETH_3 d%TWENTIETH_3 .d:5x|cc ntASSYRIAN 5az:.LUH HIEROGLYPH_A001
   PIPAEMBA_3 NGGEUAET_3 NKAARAE_3 3NGGEN_3 MBANYI_3 NYET_3TEUAEN_3SOT_3 NSHIEE_3 A045A_2A046 TEUAEQ_3 3LET_3NGGAAM_3
   0TANGUT TONAL_RANGE SOROCHYA_NOZHKA .mcaaby>x KLYUCH_2 .mdaaby>x STANDARD_ax CHELYUSTKA_2 2STATYA |x$arwa& 3NJEUX_3
   BOPOMOFO_ac .ecPROLONGED_rw .d(b>$a.d(b>i) )*2)+2.mm
   brbrabibibabe.e.abe*e*abfzfzhim,;h;lKU_2lg;fv;2vhppe+jqSI_2;m|$=:;gZE_&;ZO_kkkm&<DI_dq:>:>DU_vo2DE_y<DO_.,|b&p|iaiw2mu2y:po2;kPU_m.BE_scle2rx2PO_.,!dqh)h)ab&*fsdqj%.,%dqododWI_&+&,oq>rdqhk
   .:fPIEUP-KIYEOK PIEUP-SIOS-KIYEOK_.:g .:a.x=2.ee2.:b.ef2 .:tSSANGHIEUH_.:u .eh2.mh2.mi2.mj2.mk2.x|2.x!2.ml2.ei2.ej
   &=dxy|YAE_2EO_i&YEO_|wf.odWAE_2cv2j%p<WEO_&+2WI_2&*z) .:dNIEUN-PANSIOS_2 RIEUL-PIEUP-SIOS_2 RIEUL-PANSIOS_2
   MIEUM-PANSIOS_2 joiw3po^)le xxRI_3RU_3RE_3RO .:kKAPYEOUNSSANGPIEUP_2.:mSIOS-NIEUN_2.:o
   .:sYESIEUNG-SIOS_2YESIEUNG-PANSIOS YO-YA_2YO-YAE YU-YEO_2YU-YE ibe.e*fz
   ,a.ed2.,(.,)2.em2.,..edbr.eebr.efbr.ehbr.eibr.ejbr.embr)*br)+br.mnbr.mobr.mpbr.mqbr.mr
   M_vp3:kW_3ATIU_3Z_3KP_3P_ks:g3F_e(K_;jJ_etB_xkfjfs$,Q_3HP_3NY_3X_p>3cvg=3R_facuw: a<S_4f>1
   jg3TIGHT_jg3i<3a;i<3a%|z3d:3h%|y
   av5bb.:c5gh5zr5tp5.d^5.d|5)r5>t5.d!5)s5.d%5pb5TWENTY-ONE_5.yb5TWENTY-THREE_5TWENTY-FOUR ZADERZHKA_3
   .muaveki*2h^2ts2pr2WOOD_2METAL_2n*2th2STOCK_2HAVE_2SOCIETY_2.ep2SPECIAL_2FINANCIAL_2CONGRATULATION_2LABOR_2
   3DVOECHELNOPOVODNAYA 2STUDY_2SUPERVISE_2ENTERPRISE_2RESOURCE_2ALLIANCE_2 WAITING_2 TAMING_2 FOLLOWING_2 2DARKENING
   o.NDOLE BROAD_h* BLENDED_x( =,aarhYER aaSQUIRREL K_&mdhb= VISIGOTHIC_Z ANGLICANA_W aab%b=nm bdSCOTS upb%b=nm
   1EPIGRAPHIC_ac ahh*aeh*ah pk,.4a=e).dj ,aCHOSEONG REDUPLICATION_an 0MEETEI_MAYEK_ac m$xyLAZY_S_5 .e:HANDLE aab%aps!
   0CHEROKEE 3BLACKLETTER HE_3iw3le3 1JONGSEONG 0HEBREW euWASLA b.^|cl^|g: SALLALLAHOU_.fb c!;(c*;(fg
   USED_AS_KORANIC_dsajf( CONJOINING_cq 0FULLWIDTH REPLACEMENT_$b PARESTIGMENON_ARISTERA PROTOS_:w TETARTOS_:v
   3APOSTROFOS DEYTEROS_:w
   :%xub>dwat.:l,h1$kgcfi:$.:hfq.nj1dun<x$uwr&1dnatkcatc>at|o.fdh=1qouagcob1uscoob1&p1x&1os|puagcii1k:coii1 LEGETOS_:w
   TETARTIMORION_4 3SEISMA 3SYNAGMA $!TWENTY-EIGHTH TREMOLO-1_d, 3OYRANISMA
   .nsDYO_.fm4MONOGRAMMOS_.zc.fm4DIGRAMMOS_EX_.fm4TRIGRAMMOS_OKTO_.fm 5DISIMOU_5TRISIMOU_5TETRASIMOU 3PELASTON
   .ah4.:j5.sg %ySYMBOL-1 3KONTEVMA CUM_PROLATIONE_.n$6.zy DIGRAM_j) FRAKTUR_af 3CHOREVMA n>$mau6ay3 TALLY_a&av
   1MONOSPACE 3.y)NEO 5DEXIA_3 3MARTYRIA TELOUS_ICHIMATOS_3 .,$pvaw4.,&.fq&a.,$cd,n4.,&.ho3luxppvxp,mxpmvxpj:xp
   2TIKEUT-PIEUP_2TIKEUT-SIOS csHINGE 2TIKEUT-CIEUC_2 2RIEUL-KAPYEOUNPIEUP RIEUL-KHIEUKH_2 2ig&ver2&s MIEUM-KIYEOK_2
   2PIEUP-HIEUH 2beig2ig2beNO_er&ver .frby.hp2 fu5s.5n^5ri5lu5.dl5r;5pv5lt5,m5(m5MU_5NU_5>;5wn5PI_5j: .fsby.hp2
   |k,p|kPEAKS_|j1 WRIST_bo <f<gby6al abROTATIONS byg+.b&3.bof$g+.:pew2dag+,o abby$(by5.r.2h% STICKING_pg
   .:iPIEUP-CHIEUCH_2 4^m4YAWN SIOS-MIEUM_2 ,n5v&5tx5mv5mp5^h5h*4 1EYEGAZE-FLOORPLANE 2.:qSIOS-CHIEUCH_2 SUCKED_1
   SIOS-THIEUTH_2 .n>HIP_MOVE_1 SIOS-HIEUH_2 SIYAQ_dwavuf:y.hx.,= 3h&3tf.:y 0k^BRACKETED h^axWAXING 0CITYSCAPE
   BEHIND_.at FRETBOARD_2 GIBBOUS_h^ax h^axWANING PEPPER_0 HOCKEY_.oo
   ALIF_3DAALI_3LAAM_3MIIM_&eSINNYIIYHE_3PE_3BHE_kvethce(e!mm3YHE_3h&3h$3gxqafjJIIM_3mpjoQAAF_3ok:o|m(:3gy3qhGBE_3ZAL_3KPO_3j;
   3c&.sa3gz.se3=).:z POTATO_0 ay.br1au THUMBS_ay 2SCANDICUS SHRIMP_0 2TORCULUS COOKIE_0
   .r$3pvxp.rv2.fqdq.:n.rv2.ho2lu:apv:a,m:amv:aj::aPI_gt 0.odai.f, 0CLINKING PERSONAL_.:+ OPTICAL_.kf
   d;bydqby2d;,jdq,j2.n:1 RELAXED_2 MAILBOX_aa b+aicx:($u0 BRIGHTNESS_ax MAGNIFYING_.hz 2GURAGE .a:ct1,wct MICROPHONE_0
   SKULL_aiCROSSBONES TOUCHTONE_$t c&2b)2dl h(gnaapwSPLAYED .ewk>.sb FONT_SIZE_ax FOOTBALL_0 h!X_1j.aa pyRAISING
   0NATIONAL .o(a^1p* QUILT_bpg&4cp POST_.$+0 |rENTRY SMOKING_ax 3CROCUS 2TURBAN a(IRON_3 .i>a*.b* BEETLE_0 dfuvbldf
   ^t.ffav4bbzf p*g>p*px .brco.br0 $wKNIGHT-QUEEN_2KNIGHT-ROOK_2KNIGHT-BISHOP
   GENERAL_2MANDARIN_2.$>2$s2.de2CANNON_2SOLDIER hgdhdi&gf|9&lc,&gf|9w;&ff| opiu.hghgbc avmtBLOCK-2_~5 0.o:aacxTREND
   c,.hkf|9&ldi.hkf|9w;$+c,f|5.hk.,*.hf.,+.hf|e c,w>.,+.,*.hfdiw;&gbdap ,..sd.:& j.DRAWINGS_ba apTO_dif|4 a!aic,opsi
   1av1bb1df.:, PILCROW_ak ahqlaeqlahkq O_nchh.rxw:aajg3,e hlcqi+cq hlalmbhh NEWSPAPER_0 ahkxcq;ccqahkx N_aaa;aps!
   WRENCH_0 up.gb&oZ_aa.gb PAMPHYLIAN_.ak cralARCH aa$zaixn .gpae.gp b(.bt:adz.bt:ab(dz.bt .rv^%aa$z$.aa$z xo3r;xo^%xo
   SUNGLASSES_0 PNEUMATA_2 ahKSI_aeKSI_ah 0PRINTER $.xo:dxo .::ml3mo3ZE_e(b%e%hk.:;.r>fj+rjo.:<.:eet KHAKASSIAN_ha
   mlaai<3IO_3DJE_3GJE_3.ylml3,d3BYELORUSSIAN-UKRAINIAN_e%:+JE_3LJE_3==3TSHE_3KJE_3kxi<3b%d=DZHE ^hae^hah BASHKIR_KA
   ALEUT_KA 2SEGOL_2 FOOTNOTE_,* PER_MILLE WINDOW_0 2GERSHAYIM 2TELISHA EPENTHETIC_YUT TEARS_a(JOY_0 cll;a,ai
   AYB_3BEN_3GIM_ol3ECH_:*zt3rp3TO_3mo3INI_3LIWN_3XEH_3lh3KEN_3le3l!GHAD_3CHEH_3z%3:+NOW_m!whsa.ac3JHEH_xxSEH_3VEW_3TIWN_3gz3rz3YIWN_3PIWR_3KEH_3OH_3
   KHHA_2GHHA_2jq em:q$!3bn1 NAKAARA_POLLU .:*d%)(3mtd).k> 1rnb>curna& vmz$e(II ttEK_3ls3 RNAM_BCAD RGYA_GRAM
   LOCOMOTIVE_0 &tMDUN_fb.dy wm-DZUD_r= NGAS_BZUNG BZHI_MIG RDO_RJE BRDA_RNYING GREAT_SA RUMAI_.yw GCIG_4GNYIS
   .p|ajaaev0 ENGINE_0 GYON_4GYAS 3GARSHUNI_2 LUGGAGE_0 LABIAL_ak .ae2.e)2.e. FLATBREAD_0 2TAALUJA GAA_3zu3 UBADAMA_4
   KA_5zi5h> TA_5hb5NA PA_5jb5MA 1PAMADA nwMGO_RGYAN_2
   ;eBAN_3>m3DON_3&jVIN_3ZEN_3TAN_3cp3)>3LAS_3mk3NAR_3c)3PAR_3.p!3)l3.a.3>n3++3.p%3.p(3.p)3QAR_3pf3.p.3r>3JIL_3CIL_3.qa3XAN_3.qb3HAE_^)HIE_3x,HAR_3HOE
   mrANTARGOMUKHA RIKRIK_3 exa=e!gla= b&5DA_5is kyaoaeS KVA_5XVA kq.,,5a.medxxk*x3ku.rx3kx.rx3=;g=aaa)3eo.,,0
   2TIKEUT-KIYEOK_2 POP_DIRECTIONAL 2SSANGRIEUL p,3p:3n= .rz$zaip,7p: LOW-9_xub>HIGH-REVERSED-9 TIRONIAN_aj d^SHAPES
   2PIEUP-PHIEUPH u|cbSHAPING 1aratkh1kcat&q:$ SIOS-RIEUL_2 .:rIEUNG-KIYEOK_2 |sSPHERICAL ASYMPTOTICALLY_jl EMBEDDING_0
   ACTUALLY_jl 2PHIEUPH-PIEUP |t.g!a(bf ap,,f&fp TIKEUT-RIEUL_2 OVERRIDE_0 ar1kh1az1 BENZENE_a. apCROP_gcCROP cpA_^n;a
   APL_FUNCTIONAL_aw amgmcogm UNDERLINE_ax c,bx2^:2dibx alcyaafp1 SYMMETRIC_SWAPPING_0 c,f*bd.fp3dibx0 xqek:q.scuh
   bad>bw3:ubak+ :uaubad* c,gm3^:3di |ibw3x*bak+ CROSSHATCH_n& :uaybad* bagbbw3bwgbbad*|i r.ktuzkt UNIVERSAL_.+)ax
   DRAUGHTS_mk2ws TWO-WAY_.:= LANE_MERGE INTERLACED_.rb0 BLADE_.am .sf3ut,;nb,;3|e,; egmyRECTILINEAR_a* eg^;PROPELLER
   THREE-D_.,d m(h,l:m(f;l: d^!y3dwgh gr.r)k*bi S-SHAPED_BAG_.p= GAPPED_bo a!TO_a*ct djar0a;b* ;dg,bzdz a!lpk*bi
   h%a!g*DIRECTLY :!5&u1,=bzc.l^m<6 apfnayfmslfnap aufnamfm foam,>cx|h foam,>b+|h aoa;ey4aua,a;ey BINDING_fh GROUND_0
   PATH_.,i.f< cpumbouza= INTERIOR_|v bfkjjkdoix jtbfkjjke& aoc>ijao aodnjtao NESTED_dn2c> ,>ai.g(aa dkkiaa.rg
   CONSECUTIVE_kcSIGNS ijbfkjjke& SMALLER_.gw BINARY_.q| LARGER_.gw fya!g*b+.fuk* a;n+b*6bk bab^uuCUSP b^myCUSP
   L-SHAPED_b& VERSE_(n 0NEPTUNE h(OMISSION FORKED_.,p dcPARAPHRASE umfhcoa= 0STAFF_a( TANNED_.,t TA-ROL_2 lpLANES_0
   TTUDDAAG_2 .:v3.m^.:$3OTU_3PE_3.:w3SPIDERY_b&3fs&ax(l^&o.:x3.ba3SHTAPIC_3TROKUTASTI_c:LATINATE_.,wCAUDATE_.$f
   2SUCCEED ACKNOWLEDGE_2 ESCAPE_2 2SUBSTITUTE 2BERBER_ACADEMY DIVINATION_2SEAL a=vzTRUNK_2 COW_2.au BOLT_a(CLOTH_2
   2SHEEP_2 MORTAR_2 GATE_2MOUND"

end Covenant.Text
