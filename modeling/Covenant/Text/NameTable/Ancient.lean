namespace Covenant.Text

def ancientNames : String :=
  "U+10000 .:>B o.B008 c:B038 czB028 e%B061 e!B010 d=B001 DA 3B045 DE 3B007 DI 3B014 DO 3B051 DU 3B057 l!B046 JE
   U+1000D 3B036 |&B065 JU 3B077 hkB044 KE 3B067 KI 3B070 |:B081 &)B080 MA 3B013 ME 3B073 MI 3B015 MO 3B023 MU 3B006 NA
   3B024 :)B030 |!B052 NO 3B055 NU 3B003 PA 3B072 PE 3B039 PI 3B011 PO 3B050 PU 3B016 QA 3B078 QE 3B021 QI 3B032 QO
   U+10028 3B060 RA 3B027 RE 3B053 RI 3B002 RO 3B026 RU 3B031 SA 3B009 ;bB041 !aB012 SO 3B058 !hB059 unB004 x+B037 ;n
   B005 TO 3B069 |mB054 WA 3B075 x,B040 WI 3B042 WO U+1003C 3B017 ZA 3B074 ZE U+1003F 3B020 ZO 3B025 A2 3B043 A3 3B085
   <dB071 DWE 3B090 DWO 3B048 NWA 3B029 PU2 3B062 PTE 3B076 RA2 3B033 RA3 3B068 RO2 3B066 TA2 3B087 (j3B091 bbU+10050 2
   awB018 dbB022 3B034 3B047 3B049 3B056 3B063 dbB079 3B082 dbB086 3B089 U+10080 .b,B100 mk3B102 zb3B104 .j.3B105 EQUID
   3B105F MARE 3B105M STALLION 3B106F EWE 3B106M RAM 3B107F SHE-GOAT 3B107M HE-GOAT 3B108F SOW 3B108M BOAR 3B109F COW 3
   B109M BULL 3B120 .ka3B121 BARLEY 3B122 OLIVE 3B123 SPICE 3B125 CYPERUS 2=zB127 KAPO 3B128 KANAKO .b,B130 OIL 3B131
   .db3B132 2=zB133 AREPA 3B135 MERI .b,B140 BRONZE 3B141 .dc3B142 3B145 WOOL 3B146 3B150 3B151 c<3B152 d,=zB156 TURO2
   .b,B157 dbB159 CLOTH 3B160 dbB162 GARMENT 3B163 ARMOUR 3B164 !jB173 .kb3B174 3B176 vz3B177 !jB189 dbB191 .dd3B220
   FOOTSTOOL 3B225 .wr3B230 SPEAR 3B231 a!3B232 3B233 SWORD 3B234 3B236 3B240 WHEELED .de3B241 .de3B242 .deFRAME 3B243
   .df3B245 b$=zB247 DIPTE .b,B248 dbB251 vqB254 DART 3B255 !mVESSEL B155 4B200 ~19 4B221 ~1 4B226 ~3 4B250 4B305
   U+10100 0AEGEAN lcj,d:3a%1paa&U+10107 .sk.:(d%bnd(bnd)bnd.bnebbnedbnefbnehbnejbni*bnuho<rfo<+mo<ldo<=$o<+no<(ko<zcbn
   U+10137 1.ws.dg.dh2v$zd2+ozd2rgzd2.dizd1DRY =&v$zd1.wt=&v$zd1=&+ozd2rgzdu&ACROPHONIC ATTIC ,.4a=4.kcf%&b|a4hjldbnf%
   +pog+p&b+pqj+p|a+pflbn+pf%bn+p4zeogze&bzeqjze|azeflbnzeogbnze&bbnzeog.kd2HERAEUM avPLETHRON |)av2.wuav2.kebb|)bb2
   CYRENAIC bb.wv2.kebb.wv.sldgog.:^gh2MESSENIAN gh|)gh3rf.slld.:^ld|)ldqje)bv2.kedgbv.sldgbv|)dgbv2CARYSTIAN dgbv2
   NAXIAN dgbv|)avbnf%o<DELPHIC dg.kd2STRATIAN ld.kd1ava=aj4gicb1bbzfat.hg.:|TALENT at.kcatOBOL atbb.h$df.h$b^.h$dg.h$
   METRETES atKYATHOS .dgatLITRA atOUNKIA atXESTES atARTABE atAROURA atGRAMMA atTRYBLION .dgatd|at,.atSINUSOID at
   INDICTION akNOMISMA ajU+10190 .h&SEXTANS atUNCIA atSEMUNCIA at.:%DIMIDIA .:%SILIQUA atDENARIUS atQUINARIUS at
   SESTERTIUS atDUPONDIUS atAS atCENTURIAL akASCIA awU+101A0 u&awv&j:U+101D0 0PHAISTOS .kfaj.ww3PLUMED hy3TATTOOED hy3
   CAPTIVE 3.kg3zb3.dd3GAUNTLET 3TIARA 3a!3=*3.kh3.ki3MANACLES 3MATTOCK 3SAW 3LID 3.wx3.wyPLANE 3DOLIUM 3COMB 3SLING 3
   COLUMN 3BEEHIVE 3.kj3c<3HIDE 3BULLS s!3pc3RAM 3EAGLE 3DOVE 3TUNNY 3(l3PLANE vz3VINE 3PAPYRUS 3.kk3LILY 3OX rh3FLUTE
   3GRATER 3STRAINER &aAXE 3s%BAND 3ns+qb=U+10280 0LYCIAN xme*y!BH 2*kD ic!bZ 2!i!k*sQ 2*<k;oqMM 2NN p<+aKK 2o>e^+eTT
   .shy%X U+102A0 0CARIAN xmP2 2!r*<UUU 2o>LD 2A2 2Q 2y!M f.D2 2+eSH 2SH2 2e^C-18 p<NN 2X 2oqTT2 2+aSS ice*UUUU 2*sK2 2
   ND 2UU 2*kG2 2ST 2ST2 2NG 2II 2C-39 2TT 2UUU2 2RR 2MB 2MB2 d,LD2 2E2 2UUU3 U+102E0 0swEPACT zgb;.si3pb.hx.,yU+10300
   x:*bacc:BE 3KE 3DE etVE 3ZE ^)f,e(hk.,:i!faPE 3|q&).r>fjEKS 3PHE 3KHE 3+r3ERS 3ha3II 3UU 3ESS 2s(avf%og&bU+1032D j*
   s)3.wzpe3.w$pe0GOTHIC acAHSA 2BAIRKAN 2GIBA 2DAGS 2AIHVUS 2QAIRTHRA 2IUJA 2HAGL 2THIUTH 2EIS 2KUSMA 2LAGUS 2MANNA 2
   NAUTHS 2JER 2URUS 2PAIRTHRA 2zc2RAIDA 2SAUIL 2TEIWS 2WINJA 2FAIHU 2IGGWS 2HWAIR 2OTHAL ejbvU+10350 x:.:!;ezh3GAI 3
   DOI etZHOI 3DZHOI 3.dk3DZITA e(KOKE 3LEI 3MENOE 3NENOE 3VOOI 3PEEI 3REI 3SII 3=+fjCHERY 3SHOOI 3SHCHOOI 3YRY 3=,fa$|
   +rjoTSIU 3VER 3YER 3YERI 3v*3ml3fss+IA ount.:!x;DOI 4.dk4NENOE 4SII U+10380 0UGARITIC acALPA 2s.2GAMLA 2qg2ri<e&,.dl
   2HOTA .hv2v+y(:b(m2ta2DHAL 2$=!*SAMKA <q2PU 2SADE 2QOPA 2RASHA 2THANNA 2lf2TO ice.SSU U+1039F 1lc(nx:.w&ajA e(d=hk&)
   oklg3zi3lh3l!zjuoTU ol3DI 3DU 3hbof&ehcp=3NU urMI :fs+gy3v,xxRU qbom3ZA m!li3b&U+103C8 3AURAMAZDAA 3AURAMAZDAA-2 3
   AURAMAZDAAHA 3XSHAAYATHIYA 3DAHYAAUSH 3DAHYAAUSH-2 3BAGA 3BUUMISH 2lc(n2dwavd$:y3bvU+10400 0DESERET ag.;kae.;k0
   SHAVIAN acPEEP 2TOT 2KICK .h^THIGH &;SURE 2.w*2YEA 2HUNG 2BIB 2DEAD 2GAG 2VOW 2THEY 2ZOO 2=&2JUDGE 2WOE 2HA-HA 2LOLL
   2MIME 2IF 2EGG 2c=2ADO 2c)2WOOL 2pg2zk2ROAR 2$=EAT 2AGE 2zloj2OAK 2OOZE 2OIL 2AWE 2ARE 2bf2AIR 2ERR 2ARRAY 2=<2IAN 2
   YEW 0OSMANYA aceup|kkl&<,qg2DEEL 2RA e+SHIIN 2mm2CAYN m:s:QAAF 2KAAF 2LAAN 2MIIN 2NUUN 2onj+h)br.h*ft2uqi%U+104A0 em
   U+104B0 0OSAGE agc:.;lU+104D8 aec:.;lU+10500 0ELBASAN xmBE !=ha2DE 2NDE 2DHE 2zmi&rl2v;2GJE 2HE icJE ;fmn2LLE 2ME &n
   js==f.sbQE 2RE 2RRE ;gq%TE o)p<VE 2(s2Y 2!^mo2j<2GHAMMA 2KHE U+10530 0CAUCASIAN ALBANIAN acALT 3BET 3GIM 3DAT 3EB 3
   ZARL 3EYN 3ZHIL 3TAS saYOWD 3ph3IRB m!LAN 3INYA 3XEYN 3DYAN 3CAR 3JHOX 3KAR 3LYIT 3HEYT 3QAY 3AOR 3CHOY 3mp3CYAY 3
   MAQ 3QAR 3NOWC 3DZYAY 3SHAK 3JAYN 3c)3TYAY 3FAM 3DZAY 3CHAT 3=>3GHEYS 3RAT 3SEYK 3VEYZ 3TIWR 3SHOY 3IWN 3CYAW 3CAYN
   3YAYD 3PIWR 3KIW U+1056F 2CITATION cnVITHKUQI agc:.;tU+1057C .;vU+1058C .;wU+10594 $<ZE U+10597 aec:.;tU+105A3 .;v
   U+105B3 .;wU+105BB $<ZE U+10600 .:>A ajAB001 ~10 3AB013 3AB016 dbAB020 dbAB021F 3AB021M 3AB022 3AB022F 3AB022M 3
   AB023 3AB023M 3AB024 3AB026 vqA028B 3AB029 vqAB034 3AB037 !mAB044 ~7 3AB053 !jAB065 vqAB069 dbAB073 dbAB076 ~6 3
   AB085 vqA100-102 3AB118 3AB120 3A120B 3AB122 dbAB131A 3AB131B 3A131C 3AB164 3AB171 3AB180 3AB188 3AB191 3A301 ~7 3
   A309A 3A309B 3A309C 3A310 vqA313A 3A313B 3A313C 3A314 ~57 3A400-VAS 3A401-VAS 3A402-VAS 3A403-VAS 3A404-VAS 3
   A405-VAS 3A406-VAS 3A407-VAS 3A408-VAS 3A409-VAS 3A410-VAS 3A411-VAS 3A412-VAS 3A413-VAS 3A414-VAS 3A415-VAS 3
   A416-VAS 3A417-VAS 3A418-VAS 3A501 ~5 3A508 ~5 3A515 dbA520 dbA523 ~9 3A534 !jA545 3A547 ~10 3A559 3A563 ~3 3A568
   ~21 3A591 dbA594 vqA598 3A600 !mA606 3A608 ~16 3A626 ~3 3A634 3A637 dbA640 3A642 !mA648 dbA651 ~13 U+10740 3A701 c:
   A702 B 3A703 D 3A704 czA705 F 3A706 H 3A707 J 3A708 K 3A709 L 3A709-2 L2 3A709-3 L3 3A709-4 L4 3A709-6 L6 3A710 W 3
   A711 X 3A712 Y 3A713 h*3A714 ABB 3A715 BB 3A717 DD 3A726 EYYY 3A732 JE U+10760 3A800 ~7 U+10780 k=hqft2=^iuh+3a=iuh+
   dqdx!!B 3B m*U+10787 3zoi)l^;o6ju3.dni)p>ov5bx6ai&ob(czdkb(&>.kn&$RAMS c<!!G :gf+afG f+H ncafH 3(tf+mqJ &mf*.:.m$aa
   rm!!smrmm$;pairm3.ko4o:b|Y l^rm3O ncafcv3dkh*3Q gwfr|*8ail,frc.5+t!!r%.:)TS i)l^l,.doi)kso:V aaapbxU+107B2 !!Y 2hodp
   <.hodp2.kpzp2.;cl+zp;pdqS jvU+10800 0CYPRIOT o.br.h*JA U+10808 2JO U+1080A 2hiKE 2;hvhKU .;a.;bNE 2NI &wNU iasby:PO
   2PU 2naRE 2&xq(RU e+SE 2SI &;SU w*TE 2TI y<TU otWE 2WI 2WO U+10837 2<,(sU+1083C 2ZA U+1083F 2ZO 0IMPERIAL ARAMAIC
   .;:U+10857 2ivi^dwavd$e):yqj4hjghbn0PALMYRENE .;d.rs+u.sm.sn;r1h,.kr1f;.kr:xeaebi*uh0NABATAEAN accdv<2v<gsv=2v=2.r^
   gsHE .r|.bxgs(u2(ugs=!2=!gs+u2+ugsta.sm.sngspf;rU+108A7 :xea1CRUCIFORM dwb^$:dg|+U+108E0 0HATRAN .httc2DALETH-RESH
   m.onZAYN .bx2.r!+v2AYN sc.r&U+108F4 ;rU+108FB :xeb|+0PHOENICIAN acALF .h(2GAML 2DELT m.WAU 2ZAI .;oy(2LAMD .rtSEMK
   <qscSADE 2QOF 2ROSH :bv&:x|+d(d)U+1091F 1lcj,0LYDIAN xmy!*kD i&V icY 2*s*<k;N f.o>SS 2T p<F 2Q 2e^TT .shLY 2NN 2C
   U+1093F 1iua&U+10980 0MEROITIC HIEROGLYPHIC .;e&eBA-2 ofm|vrNA-2 3:)NE-2 xxRA-2 &rqhznom3SA-2 3.;gTA-2 3x+TE-2 3TO
   ol2awVIDJ 3VIDJ-2 1CURSIVE .;e&dofm|vrNE kv&rqhznom3h:SA 3.;gx+TO olU+109BC 2pkzrtefla=2(wRMT 3IMN .byuf:y.hwU+109D2
   .,=bnqjbnd$bvbne)bvbnlxbvbn|ahjecbvhjeebvhjegbvhjeibvo<pkavTWELFTH d$tee)telxtef%tet+teucteudteueteogte0KHAROSHTHI
   .;fd=plR U+10A05 etO U+10A0C 2rna&a>ala.b,uianw|U+10A15 w!l$U+10A19 xdxip.e;ocm;lie+jqj+KKA 2TTTHA 2TTTA 2VHA
   U+10A38 a>ckbmCAUDA 2qpU+10A3F 1h<1xqea:quh$!3bn1.b:U+10A50 jwa%dqbo2bo2=(r(MANGALAM 2.dq2u*f$u*2LINES U+10A60 x:gp
   .;hHE 4+u4=|4ta4.kq4h&4pf4td4v=4;q4SAT 4=!;s4KHETH 4=%4+v4rl4eu4AYN 4DHADHE 4tc4.dp4GHAYN 4.bw4ZAYN 4DHALETH 4(u4
   THAW 4THETH 3dwav4ld3.w,zs1gd.;hhd4c&4c*4b)4f<4h&4ES-2 4gz4jd4j=4ES-1 4gx4dl4fg4he4ES-3 4hf4eu4f:4je4GEEM 4v^4lf4gj4
   tf4=)4cl4v|4v!3dwav4gh4pbU+10AC0 0MANICHAEAN .htBHETH 2tc2GHIMEL 2.dpm.h&a>jfanzq2ZHAYIN 2JAYIN 2JHAYIN .bx2.rsXAPH
   2KHAPH 2+u2DHAMEDH 2THAMEDH .rt.hj2AAYIN scrl2.r&2XOPH 2QHOPH 2td:bSSHIN 2;qx=a&mea,U+10AEB :xeb|+jwgk2.krf$a%.drvt
   a%.dra%3 :|2d:+wU+10B00 0AVESTAN acbrft2AO 2AAO 2AN 2AAN 2dx2AEE i&ljf.i%ic,|;f(s2XYE 2XVE 2v;2GGE 2j<!=JE voo)2DE 2
   DHE 2TTE scrl2BE 2BHE 2NGE 2NGYE 2NGVE &n2NYE 2NNE 2ME 2HME 2YYE |w2VE 2RE 2mn;g!^q%mo2SHYE 2SSHE 2HE U+10B39 x=cn
   .ks.h+o;.h+;t.h+1av.;j1bbRINGS a<ava.jc1ava.a<bbRINGS jc0INSCRIPTIONAL PARTHIAN .;:U+10B58 .;ibn1.;>.bw3.;^U+10B78
   .;ibn0PSALTER .;>.;^U+10B99 2ivb;b|iva&d.evaaew5a%U+10BA9 .byt::yqjU+10C00 x:TURKIC ace=c:fegodxe>e%fel*cze=t%cvffcv
   e>v%ffv%e>AEB ffAEB e>AG ffAG e>AEG ffAEG e>=.ff=.e>AED 4EZ ffEZ e>rjffrje>AEY ffAEY e>AEK ffAEK e>OEK ffOEK e>v(ff
   v(e>AEL 4ELT 4EM 4x;>aff>ae>ENT ffENT e>ENC ffENC e>ENY ffENY 4roe>rkffAENG e>EP 4OP 4IC 4EC ffEC e>(xff(xe>IQ ffIQ
   e>OQ ffOQ e>AR ffAR e>AER 4AS 4AES 4c=ffc=e>i!ffi!e>h=ffh=e>AET ffAET e>OT 4BASH U+10C80 1HUNGARIAN ag.;+U+10CC0 2ad
   .;+U+10CFA .byf%og&bqj4bn0HANIFI .w<acc:isofuo&hl!lhjoqhhcol3xaxxsj3ZA omm!hkm+qbm|p=y^KINNA WA s+KINNA hz3&k:oocbs
   .;mfza&SAKIN p=KHONNA s,HARBAHAY 3TAHALA 3TANA 3TASSI U+10D30 y)U+10E60 0RUMI .;n.:(1.b:3ir3rgd(zfU+10E80 0YEZIDI ac
   ELIF 2BE scPHE o);g(y2CHIM 2CHHIM 2zn2<,v^2ZAL 2naRHA 2ZA l&SIN :bhe2jew*!^EYN 2XHEYN s;gy3gichf<y(2KHAF 2>b2c&.s<(z
   2onOW 2EW 2HAY 2($2rpU+10EAB |>j>b;v)b>.w=a&U+10EB0 anc&e&2($lyaoU+10F00 x:.ktacv<uxv<3v=uxv=3tc^)cdHE 3.,;.ryta3h$
   uxh$l^bg&o+v3(v3gi(v.hlux=%l^bg&oRESH-AYIN-DALETH .hmux;ql^bgc..byt:f%:y3rfqj2.b:2dmAYIN-DALETH U+10F30 0.kt.httc.r|
   .;p=%2RESH-AYIN ;r2FETH 2LESH 1%opf|>qp:|b,.;qllmeb,q;3b,a;bxb,tdb,b=a:dwav|+jwbbbg.dsl^ev2bodod(ypaaev2a=bodo
   U+10F70 x:UYGHUR .,vGIMEL-HETH 3h&3zqux=|3.,<.hl3td.hm3LESH y.a%fda,d$ev;ub,jcckd$.ds4evlxevU+10FB0 0CHORASMIAN acv<
   dqv<2v=2.r^m.onCURLED onzq.;ptd;r:xea|+U+10FE0 0ELYMAIC .;d.r!.sn;r1dmZAYIN-YODH U+11000 0BRAHMI |,2.h;.h:;x=i2.b<
   .dt4sj4(&buvmBHATTIPROLU t>3$>|;,)faAU 1h<u,jwa%f$vtd:2=(r(.dqU+11052 .sk$!3bnema>.b<h<an.b<b%E 5O bu.b<b%E 6O an.b<
   piU+1107F $:+y0KAITHI |,an,!;vw^w(xdDDDHA 2xe!%xf.;r:<.;sx>ENUMERATION atdwat;yal;yu+buplR U+110CD $:ajaoU+110D0 0
   SORA SOMPENG acSAH 3gj3BAH 3CAH 3DAH 3GAH 3MAH 3NGAH 3LAH 3NAH 3VAH 3PAH 3YAH 3RAH 3c*3KAH 3JAH 3NYAH 3zk3EEH 3IH 3
   UH 3OH 3zt3MAE U+110F0 y)U+11100 0CHAKMA |,anftice.e*KAA 2KHAA 2GAA 2GHAA 2.ku2CAA 2CHAA 2JAA 2JHAA 2NYAA 2TTAA .s=
   DDAA 2DDHAA 2NNAA 2.b).igDAA 2DHAA 2>c2PAA 2PHAA .s>BHAA 2MAA 2YYAA 2.b.(*2.im(+2SAA 2zubuA e(II t=,)fa<dOI 1O b>AU
   b>h<1MAAYYAA U+11136 x$;yu+1oxanLHAA buvmzmanVAA U+11150 0MAHAJANI .bue*fzw|w%ms.soRA e;gyn.ska>j!x>;ydmSHRI U+11180
   0SHARADA |,.h:;wpi:=|<:tubzv2.h;|%u,x>x^(,a&a>j!|.k<b>EXTRA b%bsb>SUTRA a&.spE a>crj|x$EKAM a>+z1.kv1CONTINUATION at
   iv.sqU+111E1 .;uh:.si3pb.hxqj4bnU+11200 0KHOJKI acbrftice.e*cuf..;zU+11213 xdxexfxgkm.du2mmjr.;xgyn.=ibut<fjczcu:st;
   ubj!2>du,1lcx^;yal;yx<ataj+$U+11280 0MULTANI .bue*w+2m+U+11288 2lkU+1128A w%JJA U+1128F xd.du2xip!U+1129F p(p)e;gyn.
   sk!%1iva&U+112B0 0KHUDAWADI ac,!;v.;z2msxd.dusk2xi.;xocj;n.a>mrbut>:tj!2h<U+112F0 emU+11300 0.kx.;$U+11305 |=U+1130F
   2uqcuU+11313 2qmxjU+1132A p.U+11332 :zU+11335 :=U+1133B ou.kyu;.kxaj%l$^U+11347 3secuU+1134B 3.bph<U+11350 |%U+11357
   .srU+1135D a>PLUTA an.dvmrjnt;pl.hrU+11366 ou.kxd!flt:f%t+U+11370 j*c:hkNA 3v,ofU+11400 0NEWA .ss;vw^w|.;yw%msw,NYHA
   2xc2xi2(:p!p(fcMHA 2h)RA !%e;zxot:;|<:tubuj2%lgsmr|%1SIDDHI u,1fq.stx>eloefq.kza&U+1145D 1.k$at(,.;&.h<U+11480 0
   TIRHUTA .k&.h:;x|<etb%czcufab%e!AU a>uj&z%l1GVANG x>zwU+114D0 emU+11580 0+z.ss;x$^U+115B8 :tuj&zj!2+zu,1j,vtck1.k*
   .kw~2 1.b>b>iva&aa.dwai(;ORNAMENTS 6dzzy4>eaidzzy7alzy7dazyjna.l^>e3hpzy4dazy4rqzy4SEPTUPLE zy4ypai>e6bb.w>6b^.w>an
   THREE-CIRCLE giib.w^gil*II 2giU bugi;!UU U+11600 0MODI .ss;x=i|<.svARDHACANDRA u,x>ajHUVA U+11650 emU+11660 .;*.sulm
   zzoe.suda.suzzhpm(lmzzaag&4alm(crzz3hpm(.k+zz|xg&4alm(b|.k+zzhpg&U+11680 0TAKRI ac,!;wocj;n.ska>ui.;sanh:qgx=aj
   U+116C0 emU+11700 0AHOM acw+krjrw*giTA p!fcJA 2it2hb2RA e:e+h;2j+brDA 2mmm:gim,lkp(2ms2giisU+1171D necgss<rLIGATING
   RA buc:t>etAW fa&yz$a>KILLER U+11730 em:quha>abiv2iv2RULAI snv,anlh2xc2xexf=iU+11800 0DOGRA ac,!;xsk$^.svj!x=aj
   U+118A0 0WARANG CITI ag.<g2ad.<gy)2dwgh3pb.hxU+118FF 2zw0DIVES AKURU .;,U+11909 3O U+1190C xzqhok.h=JA U+11915 3:ow)
   U+11918 .hiv>.r(m|s+YYA .sxpi3jqbt.;;E U+11937 4cu4O U+1193B s,mr3j|3.k,&z.w|NASAL i^cgh)cenacgnaajj!f$u*2.st2.b>a&
   U+11950 y)U+119A0 0NANDINAGARI .;<U+119AA ;x=isk$^U+119DA .svzv2+z1.kv.spE U+11A00 0ZANABAZAR bpxmbtl*g$kpt,cvt(cu4
   AU 4b(e%rnb;ac.b^.h=l!.<h3ph:*-A qa.sx(<gsndb;ajh<3j|4aag&%saag&3mr3pm2.;=naCLUSTER-FINAL achz4<rssoccehyb;.dyhyb;a&
   rs3v.jnv.3a;rs2ce.w!hyb;.dy.w!hyb;.w%U+11A50 0SOYOMBO .;fg$fjcze!cv3&y<dplt)*<rna&anw(.so.r%2y=.sy:<2(<.h<1.;=RA qb
   m!SA 1cdndajG 4K 4NG 4D 4N 4B 4M 4t)L 4SH 4S 4-A a>ui1(=b>.w%qqrs2v.f$+hPLUTA 1hya&aah^aithaidaFLAME 8FLAME 71
   TERMINAL .sqU+11AB0 .szNATTILIK .;|zu3SHRI 3SHRII 3SHRO 3SHROO 3SHRA 3SHRAA 2SPE 2SPI 2SPO 2SPA 0PAU CIN HAU acq=KA
   4ssMA 4DA 4ZA 4gy4h>syshqg4SA 4is4|^TA 4hb4NA 4jb4<rhc4it4go.;!>f4IA 4cdP 5K 5T 5M 5N 5L 5W 5NG 5Y 3nub!a;53(,ho3nu
   .s$(,hocd4b!a;55a;cd5cd3.w(b!3hox|3.w(.s$.w)b!a;53ho3.w).s$hocdU+11C00 0BHAIKSUKI .;<m$U+11C0A ;x$^4L U+11C38 :tuj&z
   zvu,1lcx^GAP FILLER-1 ~1 U+11C50 em.sk1.k:.dha&U+11C70 0MARCHEN hyb>a&v.an.;%.syj;n.2A U+11C92 .b!.b^&klhsal!h;uohb
   ol.ru&d.,>y^ph3ZA U+11CA9 qakvqbm!SA joA bufte(d=czO a>t;j|U+11D00 0MASARAM GONDI .;,U+11D08 3&yO U+11D0B 3AU xzqhok
   .h=l!ms3.hu.r(m|qa.sxpi3(<3JNYA 3TRA %t.;;plR U+11D3A 4E U+11D3C 4cu4O U+11D3F 4.;(3j!%s3.k,&zREPHA 2RA-KARA U+11D50
   y)U+11D60 0GUNJALA GONDI acc:t>U+11D67 3secuU+11D6A 3$|AU s+gy&ep%urhkqhunhb&roklkol3mmvrlhsa&hw.3pi3l!ms.hih>:cjbjo
   RA om%tft4l*II kpUU U+11D90 4lj4cuU+11D93 4i%4.;(&zzwU+11DA0 y)U+11EE0 0MAKASAR .;)iaisfcTA kljrm&l&h;2|cgye+A 1
   ANGKA .s&O 1PASSIMBANG 1qcivU+11FB0 .<cYHA U+11FC0 0.b;pkavTHREE-HUNDRED-AND-TWENTIETH 3.<jEIGHTIETH 3.k;3.w.3.k<.;.
   3SIXTY-FOURTHS .<kSIXTEENTH-1 db.k=3mtd).xa3.k>.s*3ir3HALF-1 ~1 d).dj2DOWNSCALING .k^KIIZH a>NEL 2CEVITU 2AAZHAAKKU
   2UZHAKKU 2MUUVUZHAKKU 2KURUNI 2PATHAKKU 2MUKKURUNI 2KAACU 2PANAM 2PON 2VARAAKAN 2PAARAM 2KUZHI 2VELI 1WET .<aDRY .<a
   LAND attiPAN atTRADITIONAL .k|i^dwat.k!ataiODD atSPENT atTOTAL atcp.xbatSTARTING nhatajMUTHALIYA 2VAKAIYARAA U+11FFF
   jw.b>0CUNEIFORM ajA qrq|qub&4f=4+&l<z*4>g2A2 2v%bjtj4.dzl<+*4qub&.h>.k%4tk4.k(.<bd=q.(>bj.d$4qu.s+.d&4=j=.2AK bj>h4
   .<d2v(bjv(4.k)4losy4KAD3 4KI |(z+2ALAN 2v<2.k.bjq%AN c;AN e)az3ar.d*z,AN ar.d*5f>2.la2APIN 2ARAD bjtm2ARKAB 2ASAL2 2
   c=3ZIDA h|3KABA h|c;c=z:a<z:z:a<z:nv5a<c=7lpc=a<c=a<c=2tj2.lb+iq^2BAG3 2.lc2BAL c;BAL 2.d$2r(BARA2 2muqrlq4f=q.rrc;
   rrv%5++mj;k.ldc;.ld2zh2BUR2 kmDAG 3(^azA ar+,5.k.5.d$5mu5m+6ar+,5nw5>i5nx5b&5IR 6arja5z;5e,5ja6arMASH2 5wa5NE 5nvar
   nv5SI 5tl5nyar>i5z+2DAM 2DAR 2DARA3 b$DI 2DIB 2(|bjq%.k)2DIN 3<:U lnf^2f^2DU c;DU 3ln3z<2(!bjz=2DUB2 2>j2DUGUD 2DUH
   2DUN 2.dz3l<q.DUN4 2DUR2 2czaznvc;E h$a<$=E2 .b%b&arDA 4lq4MI 4z>|(e.EDIN 2EGIR 2EL 2EN bjqs5qtME mj&jz,&jf>2EREN 2
   >h2.<e.s,tn7aztn4x;q|.dzln6l<b&5l<f=l<<:5f>4.h!sstnaztn4i.4ja4ny4jf2okq.GA2 .b%DA arb&6b&6f=4(>h|arz^4x;:etjar+*4q|
   ckar<rzhen<rDA 4DI 4(|azpd4(!4EL enssEN 5azququlq4nw4GI4 engo>iarSU syarjaarz=4(%enssiwari.4.le.h>ISH arpo||z;4<;KID
   entn4KU3 arx;ss.s+MI ;s5a<h$4q=z>4>k4pden((4.s^>l4tlkpjfenDU c;GA2 2.lfmj.lf2+:c;+:|n2+*3.<fGALAM 2GAM 2>m2qs3h|c;qs
   mjqs2lq2GAR3 2GASHAN 2.xcbjtm2nwbjt,d=lp;lGI4 c;GI4 mjGI4 2GIDIM 2>iraGIR3 .b%f=4quf=4jaarf=4h.GISAL 2lomjlobjq|tl3
   =llgmjlg2GU2 bjz;5azf=l<h$4z>arz:ranx.b%:.tmc;nx.d+2GUL 2GUM bjq%GUR 2GUR7 2GURUN 2GURUSH 2b&3h|ra(%2iwbj:etj4q|f^4
   +:4KIN ;s|(e.po2.lebjx;(%4<;.lg4jf2HUL2 2e%brIB 2IDIM c;IDIM zh5f>2IG 2f=3DIB 3RI c;f=.d,a<.d,jfa<jfraIL bjqs=lIL2 2
   wbbjtlmjwb3z,wb3f>2.k%2vuIR 2ISH 2KA qr=.en.h!tj4q|.d$4ck4mu4>h4z=sh+*4qulqen.d&argonw4>i4loar>k5lplo4lg4GUR7 4f=4wb
   4z;4KI 4KID 4i.4ja4ME enDU 6nw6TE 4MI enNUNUZ 4NE ;s4PI 4RU 4SA 4>k4j;|(.s^z|4SIG 4SUHUR 4>nkpny4jf4UMUM azq=z+4;m
   KA2 mjKA2 2KAB 2KAD2 ~3 c;KAD5 2z;bjf=q.KAL bjq^mjKAL 2KAM2 2KAM4 2<:3.<id=a<<:.<ie.KESH2 2KI bjq^kpjf2KID 2KIN 2
   KISAL 2KISH 2(^c;(^2KU c;;ztjKU a<;ztj2KU3 dbx|chKU7 2KUL raKUN 2tm3z,tm2()2KWU318 e;tk.s,DA arb&6lq6tn4v(4x;c=ZIDA
   qtq|mu4DAR 4EN shlq4nxennxsy4(%4;zh$.h>wbenb&6ja4KI 4KIN 4.h!KUL eniwargotk4.lg4ja4LUL 4ME enEN 4z*4NE 4pdar>l4.<dar
   >h7qt+;en+;4>l4(.4tl4TE arA arSU arNA koenA 6U ar;!ny||jf4z+3f>2+&bjpden>l3l<a<+&lnq%LAHSHU 2tnbjtn2c&bjtmen&&i.2LIL
   2LIMMU2 2.lg2jabjq^2)abjv(4q|z=5qtqu;zq|wb4KAD2 ~1 en:eKI 4e,||tk4.s+NE 4NU 4SI ||SIK2 arrr4z:3h|mj)a3z,)a3f>3z<2LU3
   2.d+c;.d+3z,.d+3z<2LUH 2LUL 2wac;wa5|n2MA bjtlraMA2 2MAH 2MAR 2+,2MASH2 2ME 2MES vl2MIN :&c;MU 2MUG raMUNSUB 2MURGU2
   2z*qr:.ZA c;z*5azA arNA mjz*2MUSH3 .s,DI 4DI 3lnjsNA2 2.d*3crbjz|h|3z,.d*2NAGAR 2NAM .xd32NAM2 &nqrjf3z<2NI bje*NI2
   2NIM bjqulqarqs=l.lhbjx;c=en:enx4ME arquNE ;s4pdenA AN 6c=7||ny||z+2NISAG 2NU 2NU11 2h$3+&azlq5+,5z>6a<h$+&azz>5z+3
   h|c;h$mjh$5+&a<+&2NUNUZ 3(>az.lb5mu5>j5nx5f=ln5KAD3 5e,5NE 5SILA3 5ny3(^azmu6e.h.)b2PAN 2nv2PESH2 2PI qrv%4mu4rrt!l*
   IB kpnymjy:PIRIG bjKAL 4jf4ZA 3z,PIRIG 2naRAB 2&xRU e+>g.xd3 qrDU 4(!sy4z;4:.wa4MI ;s4z>4.s^z^4ny4UB 4(z4+<4z+c;>gra
   z>3tkaztj2SANGA2 2>k2m;.d&qrq|lo4NE 4+;4((koenbrSHA6 2SHAB6 2to2|qpoc;pd+:a<+:|n5z^a<z^|n2SHEG9 2SHEN 2.k(2SHESH2 2
   SHESHLAM 2SHID qrwb2SHIM qrBAL 4.ld4DIN 4lq4f=5l<()4LUL 4MUG 4z>2SHINIG 2.d,3h|c;.d,zha<zh2SHITA 2z|c;cr=m+;2SHUBUR
   2SI raSIG 2.lic;.li+;2SIK2 2SILA3 2SU c;|$SUD 2SUD2 2SUHUR 2>l2SUMASH 2SUR 2SUR9 kk3j(bjiw4MI raz^c;z^NI a<NI f^a<f^
   3f>2(.bjmu4nx|(z|4z:4jf2=j>nvora;n=lTIL 2TIR bjtlc;TIR 5.<f:>z:2TUK 2TUM 2((c;((ZA a<jqd=nx3U d=a<U PA a<PA |n5SUR
   a<SUR 5U b(a<U b(2ny2UB 2jf3()bjq|MI .<bU 9ln3ln3z<4azq^2UDUG 2(zbjtk4ME arDA 4.d&4e.UMBIN 2UMUM bj<;h.++ra+<mj+<3z<
   2UR2 .b%b&6NA 4v(sy;s4nyenc=6mu2UR4 2URI 2URI3 2URU qr.lb4ck4DUN sh+*4qulq4lgsy4f=4wb4ISH 4KI 4wa4MIN 4q=pd4.li4TU
   koarnx.s:.ljbje.z+qrKU 4:.=jUSHX 2USH2 2USHUMX 2UTUKI 2UZ3 bj<:2UZU 2ZA 3h|3f>aztm2ZAG 2ZAMX 2ZE2 2ZI c;;mZI3 2ZIB 3
   KABA =lZIG 2ZIZ2 2!*ZU5 bjbrZUBUR 2ZUM 2KAP .xe2v%az$=(>azbr.k.azKUG 2DAG (^aznyar+,2DAG3 2f^ar=m(!azq%EZEN aznx4q%
   GA2 azAN arz;argotj2GE22 2GIG 2HUSH 2KA az.la4ASH3 4lo4nx4;ztj4wa4q=SHUL 4TU 4UR2 2tkaz;l)az<azq^bjz=artn4=mMESH 2
   MUSH3 azjqNA4 2NIN 2NIN9 2.lhazBAL 4;lNU11 ,(PESH2 j(2PIR2 2>gazf=q.TI2 2(zazME 2U U U+12400 1.w,ajbbc=e)c=lxc=f%c=
   t+c=ucc=udc=uec=e)f^lxf^f%f^t+f^ucf^udf^uef^lxd=dgd=ecd=eed=egd=eid=avwcd$wce)wclxwcf%wct+wcucwcudwcuewcfl)cd$)ce))c
   lx)cf%)cd$toe)to.s;tof%tot+touctoudtouetofl)dd$)de))d.s;)df%)d3toaz+*arf^7MIN fl)ed$)ee))e.s;)ef%)ee)x!ESH16 6ESH21
   lxx!LIMMU 6LIMMU4 6LIMMU A 7B t+x!ASH9 ucx!IMIN3 6.k%A 7B udx!USSU 6USSU3 uex!.xf6ILIMMU3 ~1 6.xfA d$c=h|e)c=h|lxc=
   h|f%c=h|t+c=h|fl.d:d$.d:e).d:lx.<ldg.<lNIGIDAMIN 3NIGIDAESH flESHE3 d$ESHE3 flrgf^d$zff^f%.xgf^flrgx!A d$zfx!A flmt
   :eirc=3.<mav.lk6irflirGUR 4a=GUR 3.xeavrg4bbzf4+m4ldlx.b(dg.b(ec.b(ee.b(eg.b(eiU x!U+12470 jwaj.<mlc(n|yh+3dhh+4.xh4
   QUADCOLON U+12480 a>v%azh$qt+;2=.azz=2q^azf^=l.lcaz(>4NI 4jqrra<rrazNA2 klaz=jDAG aztm2(|azf=koU e..k)azjf2>jaz.la4
   c=5h=am4DIN 4DUN 4>hshnw4>il<losy4iw.h><;:.()en<;LAK-020 4c&.<narlo4+,4MES 4MI 4NI 4PI |(SI q.E2 az:.nv2>hX 2z=lp.<e
   z<azc=5iw5f=ln5e,5tn5ME 5MES 5SU bj|$GA2 az.lc4(|l<>jazf=ln6<;EREN shlqarDI 6NE syargo()ar<;c&.<n4z*4NE enE2 6nw4
   SHIM 4ZIZ2 2.lf,(.xcaze.loazlolplo2GU2 azf=q.nxarloaz=jb&h|q.;zc=a<;zc=2KA azrr4KA koU ;!+<2tkaz=:a<!*LAK-003 2
   LAK-021 2LAK-025 2LAK-030 2.xib$LAK-062 2.xja<.xjq.LAK-080 2.xka<.xk2LAK-092 2LAK-130 2LAK-142 2LAK-210 2LAK-219 b$
   LAK-225 2LAK-228 2LAK-238 2LAK-265 b$LAK-343 2LAK-347 b$LAK-383 b$LAK-390 2LAK-441 2LAK-449 bjlg4f=4.h|6.h|4nyaris2
   LAK-450 2LAK-457 2LAK-470 2LAK-483 2LAK-490 2LAK-492 b$LAK-495 2LAK-550 2LAK-608 2LAK-617 bj:eq|.dzlnl<.h!ss>n4TE 4
   ny.s:LAK-636 2LAK-648 bj(!shf=5l<NI 4nvar.h|4.k(arKI .s:LAK-724 2LAK-749 2)alnazc=bjf^4(%4nven.h|4tlvlarZA7 2z*a<z*
   azm+6z;2.lhaz(|l<lo4GUL 4iw4KESH2 4.xi4+,4nvarnvkoen;!.lj2>glnazb&bjEN 4pdh=am4=jSHA6 =lpda<|qar.le4NAM2 4>k2+;ar>j
   azNI 4E2 azAN 2SI az=jtlar>g2TUM azqudff^2UR2 crbjjf2URU azDARA3 4LAK-668 4LU3 2ZA7 2=:a<=:ar>k2ZU5 azdff^h|U+12F90
   0CYPRO-MINOAN ajCM001 b$CM004 q)CM012B 2CM013 2CM015 2CM017 2CM019 2CM021 2CM023 ipCM033 q)CM044 2CM046 b$CM049 ip
   CM058 c$CM066 s<CM075B 2CM076 2CM078 ~14 2CM094 .ivCM107 deCM112 2CM114 2CM301 ~1 U+13000 0EGYPTIAN .<ogvA005A 2A006
   2A006A 2A006B 2A007 ipA014A 2A015 d,A017A 2A018 ~14 2A032A 2A033 ipA040A 2A041 b$A042A 2A043 2A043A 2A044 b$.<w~24 2
   B001 gvB005A 2B006 deC001 b$C002A 2C002B 2C002C 2C003 ipC010A 2C011 ~13 2D001 ipD008A 2D009 ~18 2D027A 2D028 deD031A
   2D032 d,D034A 2D035 .ivD046A 2D047 b$D048A 2D049 b$D050A 2D050B 2D050C 2D050D 2D050E 2D050F 2D050G 2D050H 2D050I 2
   D051 b$D052A 2D053 b$D054A 2D055 ~12 2D067A 2D067B 2D067C 2D067D 2D067E 2D067F 2D067G 2D067H 2E001 ipE008A 2E009 2
   E009A 2E010 c$E016A 2E017 2E017A 2E018 d,E020A 2E021 ipE028A 2E029 g.E034A 2E036 d,F001 2F001A 2F002 .ivF013A 2F014
   ipF021A 2F022 s<F031A 2F032 g.F037A 2F038 2F038A 2F039 c$F045A 2F046 2F046A 2F047 2F047A 2F048 deF051A 2F051B 2F051C
   2F052 b$G001 g.G006A 2G007 2G007A 2G007B 2G008 deG011A 2G012 q)G020A 2G021 g.G026A 2G027 s<G036A 2G037 2G037A 2G038
   g.G043A 2G044 b$G045A 2G046 q)H001 g.H006A 2H007 b$I001 gvI005A 2I006 deI009A 2I010 2I010A 2I011 2I011A 2I012 deK001
   ipL001 b$L002A 2L003 deL006A 2L007 b$M001 2M001A 2M001B 2M002 b$M003A 2M004 c$M010A 2M011 b$M012A 2M012B 2M012C 2
   M012D 2M012E 2M012F 2M012G 2M012H 2M013 d,M015A 2M016 2M016A 2M017 2M017A 2M018 gvM022A 2M023 b$M024A 2M025 deM028A
   2M029 d,M031A 2M032 b$M033A 2M033B 2M034 c$M040A 2M041 deN001 ~17 2N018A 2N018B 2N019 c$N025A 2N026 ipN033A 2N034 2
   N034A 2N035 2N035A 2N036 b$N037A 2N038 gvNL001 gvNL005A 2NL006 .ivNL017A 2NL018 d,NU001 s<NU010A 2NU011 2NU011A 2
   NU012 c$NU018A 2NU019 deNU022A 2O001 2O001A 2O002 deO005A 2O006 2O006A 2O006B 2O006C 2O006D 2O006E 2O006F 2O007 de
   O010A 2O010B 2O010C 2O011 q)O019A 2O020 2O020A 2O021 deO024A 2O025 2O025A 2O026 deO029A 2O030 2O030A 2O031 d,O033A 2
   O034 d,O036A 2O036B 2O036C 2O036D 2O037 ~13 2O050A 2O050B 2O051 2P001 2P001A 2P002 b$P003A 2P004 ipQ001 c$R001 b$
   R002A 2R003 2R003A 2R003B 2R004 c$R010A 2R011 g.R016A 2R017 ~12 2S001 b$S002A 2S003 deS006A 2S007 ipS014A 2S014B 2
   S015 d,S017A 2S018 q)S026A 2S026B 2S027 q)S035A 2S036 ~10 2T001 d,T003A 2T004 deT007A 2T008 2T008A 2T009 2T009A 2
   T010 b$T011A 2T012 gvT016A 2T017 ~15 2T032A 2T033 2T033A 2T034 d,U001 g.U006A 2U006B 2U007 ~16 2U023A 2U024 g.U029A
   2U030 d,U032A 2U033 s<V001 2V001A 2V001B 2V001C 2V001D 2V001E 2V001F 2V001G 2V001H 2V001I 2V002 2V002A 2V003 gvV007A
   2V007B 2V008 deV011A 2V011B 2V011C 2V012 2V012A 2V012B 2V013 ipV020A 2V020B 2V020C 2V020D 2V020E 2V020F 2V020G 2
   V020H 2V020I 2V020J 2V020K 2V020L 2V021 d,V023A 2V024 gvV028A 2V029 2V029A 2V030 2V030A 2V031 2V031A 2V032 b$V033A 2
   V034 deV037A 2V038 d,V040A 2W001 d,W003A 2W004 g.W009A 2W010 2W010A 2W011 deW014A 2W015 d,W017A 2W018 2W018A 2W019
   g.W024A 2W025 2X001 deX004A 2X004B 2X005 b$X006A 2X007 b$X008A 2Y001 2Y001A 2Y002 c$Z001 b$Z002A 2Z002B 2Z002C 2
   Z002D 2Z003 2Z003A 2Z003B 2Z004 2Z004A 2Z005 2Z005A 2Z006 s<Z015A 2Z015B 2Z015C 2Z015D 2Z015E 2Z015F 2Z015G 2Z015H 2
   Z015I 2Z016 2Z016A 2Z016B 2Z016C 2Z016D 2Z016E 2Z016F 2Z016G 2Z016H 2AA001 c$AA007A 2AA007B 2AA008 ~24 U+13430 rb+y2
   b<+y2INSERT h=ex.d;4gl.d;4expn4glpn2nmbd2z!.ll2pn.llU+14400 0ANATOLIAN .<os<A010A 2A011 ~15 2A026A 2A027 ~12 2A039A
   2A040 b$A041A 2A042 de.<w2A046A 2A046B 2A047 ~19 2A066A 2A066B 2A066C 2A067 ~30 2A097A 2A098 2A098A 2A099 b$A100A 2
   A101 2A101A 2A102 2A102A 2A103 b$A104A 2A104B 2A104C 2A105 2A105A 2A105B 2A106 b$A107A 2A107B 2A107C 2A108 d,A110A 2
   A110B 2A111 gvA115A 2A116 s<A125A 2A126 s<A135A 2A136 ~66 2A202A 2A202B 2A203 gvA207A 2A208 b$A209A 2A210 g.A215A 2
   A216 2A216A 2A217 ~10 2A227A 2A228 ~39 2A267A 2A268 ~21 2A289A 2A290 gvA294A 2A295 gvA299A 2A300 s<A309A 2A310 ~19 2
   A329A 2A330 b$A332A 2A332B 2A332C 2A333 deA336A 2A336B 2A336C 2A337 ~22 2A359A 2A360 gvA364A 2A365 deA368A 2A369 d,
   A371A 2A372 s<A381A 2A382 2A383 RA bf&xA383A 2A384 d,A386A 2A387 g.A393 eg2A394 ~15 2A410 z!(wb;A410A pn(wb;A411 ~39
   2A450A 2A451 c$A457A 2A458 ~39 2A501 ~29 U+16800 0BAMUM acPHASE-A NGKUE +=3GBIEE FON 3PON +=.xl5.<p>c+=3SHUENSHUET 3
   TITA +=3NZA +=3SHINDA PA )f3PON PA )f.xl6.<pMAEMBGBIEE 3TU .s(NGANGU 3MAEMVEUX 3MANSUAE 3MVEUAENGAM 3SEUNYAM 3
   NTOQPEN 3KEUKEUTNDA 3NKINDI 3SUU 3NGKUENZEUM 3LAPAQ 3LET KUT .ipMFAA 3MAEKEUP 3PASHAE 3GHEUAERAE 3PAMSHAE 3+>.<qNZUN
   .lm3U YUQ NAE 3GHEUAEGHEUAE .ipNTAA 3SISA 3MGBASA 3MEUNJOMNDEUQ 3MOOMPUQ 3KAFA of.ln3>o.ln3PET 3MAEMKPEN 3NIKA 3PUP
   3TUAEP 3LUAEP 3SONJAM 3TEUTEUWEN 3MAENYI .crNDAANGGEUAET 3KUOQ 3MOOMEUT 3SHUM 3LOMMAE 3FIRI 3ROM 3KPOQ 3SOQ 3)gPIEET
   3SHIRAE .ip3.lo.lpYUM 3NYIT MONGKEUAEQ 3PAARAE 3.<rUNKNOWN .<sMAESI 3NJAM 3.<t.<uPAAM 3.<v.lq%^3KAQ 3.lr3+s=kNEN 3
   NAQ 3MBAQ 2PHASE-B NSHUET 3TU MAEMGBIEE 3SIEE 3>p|mLOM .iq)hMAELEE 3KIEEM 3YEURAE 3MBAARAE 3KAM 3PEESHI 3YAFU .ln3c&
   .lp.irNTIEE SHEUOQ 3NDU NJAA 3GHEUGHEUAEM 3PIT 3TU NSIEE 3SHET NJAQ 3SHEUAEQTU 3+=.<x.lsMBAAKET %^.iqKEUPUQ 3
   GHEUGHEN 3KEUYEUX 3LAANAE 3PARUM 3VEUM 3NGKINDI MVOP 3NGGEU MBU 3WUAET 3SAKEUAE 3TAAM 3MEUQ 3NGGUOQ 4d;3MFIYAQ 3SUE
   3MBEURI 3MONTIEEN 3NYAEMAE 3PUNGAAM 3.lmNGGEET 3FEUX 3MBUOQ 3FEE 3KEUAEM m|NJEUAENA 4NJUQA .<yNSEN urKIQ 3.lt2
   PHASE-C NGKUE .s(NZA 3YUM 3WANGKUOQ .<sNDEUAEREE 3NGKAQ 3GHARAE 3MBEEKEET 3GBAYI 3NYIR MKPARAQ MEUN 3NTU .ls3MBEUM 3
   PIRIEEN 3NDOMBU .cxCABBAGE-TREE 3KEUSHEUAEP 3GHAP 3KEUKAQ 3fsMUOMAE 3NZEUM 3MBUE 3NSEUAEN 3.ls3YEUQ 3KPARAQ 3KAA 3
   .lu3NDIDA 3TAASHAE 3NJUEQ 3TITA YUE 3SUAET 3NGGUAEN .irVEUX 3NANSANAQ m|KEUAERI 3NTAA 3NGGUON 3LAP 3MBIRIEEN 3
   MGBASAQ 3NTEUNGBA 3TEUTEUX 3NGGUM 3FUE 3NDEUT 3NSA 3NSHAQ 3BUNG 3VEUAEPEN 3MBERAE 3RU 3.lv3c&3TITUAEP 3NSUOT .lt3
   NJEEEE .cr.lw3MAESI 3MBUAEM =kKUT 3NJAM 3.lt3WUP 3NGGUEET 3NSOM 3NTEN 3.lx.<rNSUN 3NDAM m|NSIEE 3YAA 3.ly3SHUEQ 3
   SETFON 3MBI 3.s(.<tKEUSEUX 3MBEUX 3KEUM .cxPICKET 3YUWOQ .<>MIEE 3MUAE 3SHIQ 3KEN LAW 4FATIGUE 3NGAQ 3NAQ 3LIQ 3PIN
   3=>3TET 2PHASE-D MBUO 3WAP 3)f3+=3NJIEE 3LIEE 3NJEUT 3NSHEE 3NGGAAMAE 3.irWUAEN 3NGKUN 3.d<3NGKAP 3KEUAETMEUN 3TEUT
   3SHEUAE 3NJAP 3SUE .crYAEMMAE 3KUOM 3SAP 3MFEUT 3NDEUX 3MALEERI 3.lm3SEUAEQ 3)i3NJEUAEM 3KEUOT MBUAE 3NGKEURI 3|m
   GHAA 3NGKYEE 3FEUFEUAET 3.lz3MGBOFUM 3LEUAEP 3NDON 3MONI 3MGBEUN 3PUUT 3MGBIEE 3MFO 3wa3NSIEEP .cx3KWAET 3.<uYUWOQ 3
   KEUM 3RAEM 3TEEEE 3NGKEUAEQ 3MFEUAE 3NSIEET 3KEUP 3PIP 3PEUTAE 3NYUE .<yMFIEE 3NGGWAEN 3YUOM 3nv3YUOP 3NDAM 3.iqSUAE
   3KUN 3NGGEUX 3NGKIEE 3TUOT 3MEUN 3KUQ 3NSUM 3TEUN 3MAENJET 3NGGAP 3LEUM 3NGGUOM 3.lp3NJUEQ 3.xm3&)REN nt3TAE 3TOQ %^
   3RII 3LEEEE 3.l$vs3SUU :f3.d=3SHEUX 3.d>^.z|3.l&3.bz|!.lo3PUQ 3MVOP 3LOQ 3REN .l*3;nNTUU .cxee3SAQ 3FAA 2PHASE-E .ly
   3TOON 3MBEUM 3LAP 3VOM 3LOON 3PAA 3SOM 3RAQ 3NSHUOP 3NDUN 3.l+3+^3NGKA 3KPEUX 3WUO 3+|3.<qPAAM 3>q3.lx3LOM 3.<vNGOP
   3.lq3NGKEUX 3NGOQ 3NSHUE 3RIMGBA .<>PEEM 3SAA 3NGGURAE 3MGBA 3GHEUX 3NGKEUAEM 3.xn3)g3LOOT 3NGGEEEE 3NDIQ 3TAEN .iq
   >p3PUM .s)SOFTNESS 3NGGUAESHAE .irYIEE 3GHEUN 3TUAE 3YEUAE 3PO 3TUMAE 3KEUAE 3SUAEN 3.<xVEUAE 3WEUX 3LAAM 3PU 3TAAQ
   3GHAAMAE 3NGEUREUT 3SHEUAEQ 3MGBEN 3.s.NZAQ 3NKOM 3GBET 3TUM 3KUET 3YAP %^CLEAVER 3YIT 3MFEUQ 3NDIAQ 3PIEEQ 3YUEQ 3
   LEUAEM 3FUE 3GBEUX 3NGKUP .crMAE 3NGKAAMI 3GHET 3%%NTUM 3PEUT 3YEUM 3NGGEUAE %^nz3NZUQ 3POON 3MIEE 3FUET 3NAE 3MUAE
   3.xm3wee%MVI 3PUAQ 3NGKUM 3KUT 3PIET .ip3YEUAET 3NGGUP of.xo3we.l,3FOM 3)j;jTOQ fae%LAQ ofPLURAL 3TAA 3TAQ .s)MY )k3
   SHIQ 3YEUX 3NGUAE 3YUAEN 3YOQ SWIMMING 4.l:3YUQ 3YUN 3KEUX 3.l;3)jEPOCH 3PUE 3WUE 3FEE 3+s=kMI 3.l<3)l3NGUAET 3&krt3
   .lo3weREMEDY vrPI 3LOQ 3|:z%urMAQ 3TEU 3KI 3+>og3FAQ 3GHOM 2PHASE-F KA fj&)se)m3TAE %^&rRII 3RIEE 3.l$3TAA .s)3.lvvs
   3SUU 3.d=3!a.lu3.d>.crNUAE ^.NJUAE 3YOQ 3z|s+.lr3.l;3.l&3WUE 3.bzRU 3|!.l<3KEN 3.xp3)n3rt3.l+3FOM y^i.3LOQ 3|:MBEN 3
   REN urMO .cx3TET 3)o3SAMBA 3VUEQ U+16A40 0MRO acTA 2NGI uyMIM p|kmbrmv2KHAI 2HAO 2DAI 2CHU 2KEAAE 2OL 2.lq2NIN iai%
   f.q(.iwTHEA 2EA 2WA i&vhLAN e;HAI 2&xTEK U+16A60 emU+16A6E u,0TANGSA acOZ 2OC 2OQ 2OX 2AZ 2AC 2(x2AX 2VZ 2VC 2VQ 2VX
   2EZ 2EC 2EQ 2EX 2IZ 2IC 2IQ 2IX 2UZ 2UC 2UQ 2UX 2AWZ 2AWC 2AWQ 2AWX 2UIZ 2UIC 2UIQ 2UIX gsNG 2a;UEX %>UEZ 3AWX 2UEC
   2UEZ 2UEQ 2UEX 2UIUZ 2UIUC 2UIUQ 2UIUX 2MZ 2MC 2MQ 2MX 2w+m:h>e+h)WA iah;2jbp|fcNA 2b&e;HTA kkkmna(:2j;m&+jlk2HTTA 2
   hb2zis;mm2it2ZA U+16AC0 emU+16AD0 0BASSA VAH acENNI xz;b%%MBE 3YIE 3GAH 3DHII 3KPAH 3|&HWAH y^ZO 3GBU 3DO 3CE 3UWU 3
   TO &e>r3YEIN :cWADDA 3A fai%fjljetI U+16AF0 y.c+b!ddb!3+!b!3LOW-MID b!3HIGH-LOW +kdtU+16B00 0PAHAWH HMONG bsKEEB 3
   KEEV 3KIB 3KIV 3KAUB 3KAUV 3KUB 3KUV 3KEB 3KEV 3KAIB 3KAIV 3KOOB 3KOOV 3KAWB 3KAWV 3KUAB 3KUAV 3KOB 3KOV 3KIAB 3KIAV
   3KAB 3KAV 3KWB 3KWV 3KAAB 3KAAV 2ndVAU 3NTSAU 3LAU 3HAU 3NLAU 3RAU 3NKAU 3QHAU 3YAU 3HLAU 3MAU 3CHAU 3NCHAU 3HNAU 3
   PLHAU 3NTHAU 3NAU 3<dXAU 3CAU 2a&(yTUB 4SO 4KES 4KHAV 4SUAM 4HOM 4TAUM s,)pTHOM 4TSHAB CEEB 3(yCHEEM 3)pTHIAB 4FEEM
   3XYEEM NTXIV 4j:4TOV 4FAIB 3)pSEEV 3MEEJ SUAB 3)pNRUA 3IB YAM 3XAUS 3(yTSOV ROG U+16B50 y)U+16B5B 2dw.l=3.k:ogzg3+%3
   bv+%ogBILLIONS 3TRILLIONS U+16B63 s,)pLUB 3XYOO 3HLI 3THIRD-STAGE HLI 3ZWJ THAJ 3HNUB 3NQIG 3XIAB 3NTUJ 3>s3TXHEEJ
   CEEV 3MEEJ TSEEB 3v&3LOS 3MUS 3(yHAIS LUS NTOG NTOG 4CUAM TSHOOJ 4TXWV 5CHWV 4PUB DAWB 4NRES TOS U+16B7D 2CLAN aj
   TSHEEJ 4YEEG 4LIS 4LAUJ 4XYOOJ 4)q4HAWJ 4MUAS 4THOJ 4TSAB 4PHAB 4KHAB 4HAM 4VAJ 4FAJ 4YAJ 4TSWB 4KWM 4VWJ U+16E40 0
   MEDEFAIDRIN ag.=qae.=qem:q.sc1xqgichbbgichdfgicb1fqduawAIVA 1n$OH U+16F00 0MIAO ach.is:ph.PLA fcMHA 2h:fbs:ocVFA kk
   kmwf&hTA 2w)xbjs(::pv>2h:NA xf2NNHA e;LYA 2zx2LHYA 2.l>2DLHA 2TLHYA 2DLHYA 2him,wfhi%(QGA .;y2h:h>2j+<,lk2GHHA 2TSSA
   2DZZA w,NYHA 2v:2.dx:pv:3.dx2.l^v:2m;li2y=ZSHA +jz&:pi(e+jqZSA .taZZSA 2h:ZZA 2ZZYA 2ZZSYA otzk2zn2BRI 2SYI 2DZYI vo
   2pe2RTE U+16F4F a>ndk<ckan.l|a>.xq2.l^.xr3.xqbuc:vmAHH 3;erofa$|WO 3W et&jrk3OEY e(IA 3IAN 3IANG 3IO 3ml3II 3)t3ING
   fj>f3UAN 3UANG 3UU 3UEI 3UNG $<:+dx3AEE 3ERR 3tqERR 3ER 3tqER 3&yzm3<dz(g=3NG 3UOG 3YUI 3OG 3OER 3VW 3IG 3EA 3IONG 3
   UI U+16F8F &^ap2exap2bma,an>uc$.l^)udbTONE-4 vqTONE-8 U+16FE0 .<z.h%NUSHU .h%nt.xsbxb;.h%KHITAN abh!+wU+16FF0 0
   VIETNAMESE giREADING a&|^NHAY U+18800 .<zCOMPONENT-001 ~767 U+1AFF0 0ruacMINNAN >u~3 U+1AFF5 3.xtdbNASALIZED )u~4
   U+1AFFD 4.xt~1 U+1B000 2h:E .h.h:s)0HENTAIGANA acA-1 d,A-WO 2I-1 deU-1 gvE-2 gvO-1 d,KA-1 q)KA-10 b$KA-KE 2KI-1 ip
   KU-1 c$KE-1 g.KO-1 d,KO-KI 2SA-1 ipSI-1 g.SU-1 ipSE-1 gvSO-1 c$TA-1 deTI-1 c$TU-1 deTU-TO 2TE-1 q)TO-1 g.TO-RA 2NA-1
   q)NI-1 c$NI-TE 2NU-1 d,NE-1 g.NE-KO 2NO-1 gvHA-1 q)HA-10 b$HI-1 c$HU-1 d,HE-1 c$HO-1 ipMA-1 c$MI-1 c$MU-1 deME-1 b$
   ME-MA 2MO-1 g.YA-1 gvYA-YO 2YU-1 deYO-1 g.RA-1 deRI-1 c$RU-1 g.RE-1 deRO-1 g.WA-1 gvWI-1 gvWE-1 deWO-1 c$N-MU-MO-1
   ~1 .h.h:tb0ruach::+s)3tbU+1B150 .h.abWI 3x,WO U+1B164 0ruacabWI 3x,WO g=U+1BC00 0DUPLOYAN acy%X 2+a+eF 2*s*<y!!rnq*k
   o>P oqD e^F oqK k;R e^!i+(DH 2DH 2KK 2+(!kHL 2LH 2RH 2k;oq!ke^M oqN k;J k;S !kM do2N do2J do4evixaibmS do5b,M e^N e^
   J e^S e^M N e^N M e^J M e^S J e^J S dog=4e^S T 4r%P 4o>T S 3R e^!bWH 2W o>S N 3k;K R e^G R e^S K 4o>br+(OW 2)vf.AOU
   ice*ml%>ibUI 2uq+(zt2.xuib+(uqa;ibs)p<z)2XW 2U oqa;e..xue.UH 2+(e.OOH 2OW 2z(otWO 2WI 2WEI 2WOW 2NASAL d=e!e%br
   PERNIN ;ez$2+(&j;ec)2plM U+1BC70 1AFFIX amb<z.2+!b<z.d*b<z.s=bgz.2+!bgz.=nbgz.2>vz.3)wz.3.xv3&oE f*I f*.xvbxU+1BC80
   =n.=sU+1BC90 s=.=s3a!U+1BC9C a>eoew1THICK ac.l!oeb>jcCHINOOK !cSHORTHAND FORMAT ac.l%2CONTINUING .l%k$.l(oj.l(
   U+1CF00 0ZNAMENNY nsa&.ib&!qv)x&!qv.l)qv.ibqv)xqv.xwqv;&qv;$qv>wqv;&!dqv;$!dqv>w!dqv.ib&!qz)x&!qz.l)qz.ibqz)xqz.xwqz
   ;&qz;$qz>wqz;&!dqz;$!dqz>w!dqz.l)&!3;&&!3.l.;&3;$&!4.l.3>w&!3;&.l.3.ia>w3ZELO 3c)3RAVNO 3.d)3BORZAYA 3UDARKA 3
   PODVERTKA 3LOMKA 3KUPNAYA 3KACHKA 3ZEVOK 3SKOBA 3RAZSEKA .tec)amU+1CF30 2.<$a&MRACHNO 5SVETLO 5TRESVETLO 2a&.=u.xx
   .=uOTSECHKA 3.xy4:!3.xz4POLNAYA 3OBLACHKO 3.<&3TOCHKA 3DVOETOCHIE 2ATTACHING bgOMET 2a&rvOMET .te2di.<$zs1PRIZNAK k<
   LEVEL-2 db.x$FLIP .te3ROG U+1CF50 1NEUME KRYUK 3TIKHY 2PARAKLIT 2DVA V CHELNU 2.<+ZANOZHEK 2.x&vpOCHKOM 2PEREVODKA 3
   )y2.x&aa.<&2.<;PALKA 2>x2GOLUBCHIK BORZY 3TIKHY 3MRACHNY 3SVETLY 3TRESVETLY 2VRAKHIYA .d.3.ma.tg3+).d.4.ma4>y4.tff$
   >x<..<;DERBITSA 2KHAMILO 2.xz2.xy2.x*.ma.tg3.d)2.xx.<+.x*+)>y3.x+3+).d).th.d.4>y4)y4+)2SLOZHITIE vp>z3ZAKRYTOE vp&|2
   KRYZH 2ROG 2)z2KOBYLA 2ZMEYTSA .<<vp>z4&|4>zI &|4&|I >z3ZAKRYTAYA 4S >zvpROGOM 4DVUMYA ZAPYATYMI 4>zI PODCHASHIEM 2
   POLKULIZMY .<<)y2.mb.d.3MRACHNOTIKHAYA 3KRYZHEVAYA 3POLUPOVODNAYA 3.ea3)y3KLYUCHEPOVODNAYA 3.x+3.d)PUTNAYA .th3
   DVOECHELNOKRYZHEVAYA .=w.th+).=w+)3.<*3.<,3.mc3.md4hp>x3.x,4.ea2MECHIK 3POVODNY 3KLYUCHEVOY 3KLYUCHEPOVODNY 3
   KLYUCHENEPOSTOYANNY 2.mbTRYASOGLASNAYA 3TRYASOPOVODNAYA 3TRYASOSTRELNAYA 2OSOKA .tg3.x:>y3+)>y4)y2.mb.x:4.ea4.<*4.<,
   4.mc4.md5hp>x4.x,5.ea4TRYASKA 2KUFISMA 2OBLAKO 2DUDA 2NEMKA 2PAUK"

end Covenant.Text
