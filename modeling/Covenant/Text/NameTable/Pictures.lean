namespace Covenant.Text

def pictureNames : String :=
  "U+1D000 0BYZANTINE puawr:3DASEIA 3n=3OXEIA .fh.ix.y!.fh.ixKATHISTI 3SYRMATIKI 3.nn3YPOKRISIS .ixKREMASTI 3APESO .fh3
   EXO .fh3.y%3.no.>v.ixSYNEVMA 3THITA 3.y(lb.y)lbPSILON 3CHAMILON 3VATHY 3.nplb.t:lb.nolbSAXIMATA 3PARICHON 3.y.
   APODEXIA 3OXEIAI lbVAREIAI lb.zalbAPOTHEMA 3.fj3REVMA 3.zblbTINAGMA 3ANATRICHISMA .>$.>&la4META STAVROU .>,lbTHEMA 3
   LEMOI 3DYO 3TRIA 3.zc3KRATIMATA 3APESO EXO iq.aglbIMIFTHORA 3.fklbKATAVA .fk.><3.zd.>^.>(lbRAPISMA 3.nqlb.nnlb
   ICHADIN 3NANA 3PETASMA .>^.nr3.fk.nr3STRAGGISMATA 3GRONTHISMATA 3.npiq.y(iqOXEIA iqPETASTI 3KOUFISMA 3
   PETASTOKOUFISMA 3KRATIMOKOUFISMA .><iq.t+$l3.t;$l3YPSILI .>viq.zeSYNDESMOS iqYPORROI 3KRATIMOYPORROON 3ELAFRON 3
   CHAMILI 3MIKRON .np3.y!iq.zbiq.zdiqOMALON 3ANTIKENOMA 3LYGISMA 3.nniq.nqiq.zf.nq3KYLISMA 3ANTIKENOKYLISMA 3.fkiq
   EKSTREPTON .>&iqSYRMA .>(iqEPEGERMA .>$iqXIRON .fj3TROMIKOPSIFISTON 3PSIFISTOLYGISMA 3TROMIKOLYGISMA 3
   TROMIKOPARAKALESMA 3PSIFISTOPARAKALESMA 3TROMIKOSYNAGMA 3PSIFISTOSYNAGMA 3GORGOSYNTHETON 3.zg3.zf.zg.>,iqTHEMATISMOS
   ESO 4EXO 3THEMA .zh3THES ^bAPOTHES 3KATAVASMA 3ENDOFONON 3YFEN ,i4$l3.y.3.fj$l3.filbKRATIMA la4.nr4iq.zaiq.ns3.fi3
   TRIPLI 3TETRAPLI 3.nt3.ziENOS .zj4DYO .t<TRION .t<TESSARON .t<IMISEOS .zj.^b$l4.>s.^cDIGORGON 4.>s,i6$l.^cTRIGORGON
   3ARGON 3IMIDIARGON 3DIARGON 3AGOGI POLI ARGI 4ARGOTERI 4ARGI 4METRIA 4MESI 4GORGI 4GORGOTERI 4POLI GORGI .^d.>tALLI
   .>t.>wALLI .>wTRITOS :wTRIFONIAS 4.>u5.>y.>y.zk:v3ISAKIA .^e.ze.^eFANEROSIS TETRAFONIAS 4.zl4.zm.^dVARYS :w
   PROTOVARYS :w.zk.>u3GORTHMIKON N .zh5DIPLOUN 3ENARXIS ^b.agVOU 3IMIFONON 3IMIFTHORON 3.aglaDEYTEROU ICHOU 4.nuPA 5
   NANA 4NAOS :w.nuDI 4.nvDIATONON DI 4.nuKE 5ZO 5NI ,i6$l4MALAKON .nw.zm6.zl3FHTORA .nv.nwVASIS 3.ag.nv.nwSYNAFI 4
   NENANO 3CHROA ZYGOS 4KLITON 4SPATHI 3.agI .fl.>zENARMONIOS ANTIFONIA 3.fl.zn3.zo.zn4.>z.>:3.fl.>:3GENIKI .zo4.fl3
   DIASTOLI .nsMIKRI 5MEGALI 4.fi4.zp3SIMANSIS .zp.>;4ARSEOS .>;3DIGRAMMA GG 3DIFTOGGOS z(3.nx3ARKTIKO q=VOU shDI 4KE 4
   ZO 4|!.t+MESO 3.t;MESO 3.t+,i3.t;,i3.fj,i.^b,iU+1D100 0puawby^cf$^cgs^c2rycd^c2n;^c%>^ck,)$ajd*)$i^)$ev(aSEGNO kl
   CAPO 2SEGNO 2CODA 2REPEATED FIGURE-1 d,.zq3b,.zrb;CAESURA 2BRACE 2fh2ONE-LINE (bTWO-LINE (bTHREE-LINE (bFOUR-LINE (b
   FIVE-LINE (bSIX-LINE (bSIX-STRING .^)FOUR-STRING .^)G .>=C .ah2F .>=.aiCLEF-1 ~1 U+1D129 2,j=&mff$^d3^e2^e!,2.zs!,2
   ^d!,2irb!^d4^e2COMMON .vsCUT .vs.:j3.sgQUINDICESIMA ALTA 3.sgMULTI mg.nymga=mgirmgmtmg)(mg.k<mg.k;mf.>*mgX (dar(dboX
   (dbp.t>cy(cay.ios&.ionb.io4au.io4ayapaq6u$h^.t>TRIANGLE-ROUND (cauaq5u$fi(dVOID (d(cu$NULL (dCLUSTER .t>ez2.ny=qa==q
   ir=qmt=q)(=q.k<=q.k;n>.>*n>y.$m3SPRECHGESANG $m3.>+FINGERED .>+nsAUGMENTATION a%3FLAG-1 gvz!BEAM 2pnBEAM 2z!>:2pn>:2
   z!SLUR 2pnSLUR 2z!.zt2pn.zty.or3STACCATO 3TENUTO 3STACCATISSIMO 3MARCATO 3MARCATO-STACCATO 3ACCENT-STACCATO 3LOURE 2
   ARPEGGIATO !,y.DOIT 3RIP 3FLIP 3SMEAR 3.fnjn,k3da,k2RINFORZANDO 2SUBITO 2Z 2PIANO 2MEZZO 2FORTE 2CRESCENDO 2
   DECRESCENDO 2GRACE n>kb4NO kb2TR 2.nz2cr.nz2.nzkbgg2g&STROKE-1 !jSTROKE-10 b$HAUPTSTIMME 2NEBENSTIMME 2qcSTIMME 2.fo
   kby.au=*gg=*3HARMONIC 3SNAP PIZZICATO 2PEDAL a&ggb;a=PEDAL b;GLISSANDO !,zaFINGERNAILS 2DAMP 3.aj2MAXIMA 2.m.2.zu2
   .zvaq3u$.zw3u$.zxaq3u$FUSA aq3u$.m..n$mf3.zymg.zumg.zvmg.zwmg.zxmgTEMPUS PERFECTUM .>|6.n$.zz3IMPERFECTUM .>|7.zzd,
   CROIX 2GREGORIAN C .ah3F .ah2bpy!VIRGA 2PODATUS 2CLIVIS .|i2CLIMACUS .|k2PORRECTUS 3.z$.|i.z$.|kRESUPINUS 2PES
   SUBPUNCTIS 2KIEVAN C .ah3qc.fpuxn>3RECITATIVE a&3.nyn>3a=n>3ir.>)mt.>)^ei^SORI 2KORON U+1D200 u&VOCAL .>>!jSYMBOL-10
   ~14 3SYMBOL-50 ~4 1INSTRUMENTAL .>>dbSYMBOL-4 dbSYMBOL-7 dbSYMBOL-11 ~3 3SYMBOL-17 vqSYMBOL-23 !mSYMBOL-29 db
   SYMBOL-32 3SYMBOL-36 !mSYMBOL-42 dbSYMBOL-45 3SYMBOL-47 ~7 ous|pu.z&3.z*3.z+u&pu.ziU+1D2E0 0MAYAN s(d|d%eki*.sc
   U+1D300 0=zj)n*0.>!HEAVENLY n*2.n&n*2EARTHLY .en3.n&2n*0TETRAGRAM j)f|2drbo2MIRED 2BARRIER 2.yiab2CONTRARIETY 2
   ASCENT 2.mz2BRANCHING pg2DEFECTIVENESS bfDISTORTION 2DIVERGENCE 2YOUTHFULNESS 2.m$2PENETRATION 2REACH 2^f2>*rh2.=y
   .=$ADVANCE 2RELEASE 2RESISTANCE 2EASE 2JOY 2CONTENTION 2ENDEAVOUR 2DUTIES 2CHANGE 2DECISIVENESS 2fxRESOLUTION 2
   PACKING 2LEGION 2CLOSENESS 2KINSHIP .uf2STRENGTH 2PURITY 2FULLNESS 2RESIDENCE 2LAW bfMODEL 2.z,2GOING TO MEET 2
   ENCOUNTERS 2STOVE 2GREATNESS 2ENLARGEMENT 2.z:2RITUAL 2FLIGHT 2VASTNESS bfWASTING 2CONSTANCY 2=&2.n*2UNITY 2
   DIMINISHMENT 2dklr2GUARDEDNESS .ufvuMASSING 2ACCUMULATION 2EMBELLISHMENT 2DOUBT 2WATCH 2SINKING 2INNER 2.z;.=&2
   DIMMING 2EXHAUSTION 2SEVERANCE 2STOPPAGE 2HARDNESS 2.m*2CLOSURE 2FAILURE 2AGGRAVATION 2COMPLIANCE 2c)f,VERGE 2
   DIFFICULTIES 2LABOURING 2FOSTERING U+1D360 0COUNTING ROD .dhd^!y2.l=d^!y|b.>.t:f%0.>.ebU+1D400 0^gfxaf.t=1*c:ndqc:B
   xk:hU+1D456 :i:j3r%:m!:*c.cm1h!afA U+1D49E xkp>U+1D4A2 :gU+1D4A5 3J 3K U+1D4A9 g=:jU+1D4AE 3:mdqc:B xkp>U+1D4BB 3F
   U+1D4BD xl:iU+1D4C5 3P 3Q 3r%:m!:h!af.cm1.>%c:B U+1D507 :hU+1D50D 3J 3K $,M g=:jU+1D516 3:lw:U+1D51E dq:n1,lafc:B
   U+1D53B :hU+1D540 e(J 3K $,M U+1D546 3O U+1D54A 3:lw:U+1D552 dq:n!:.>%.cm1f!af.t=2fxaf.cm2*c.cm2fx*c.it=g.it.^aaf.t=
   1*babmql*J U+1D6A8 !:af.|m*c.|mfx*c.^fPI gtf!fxaf.^fPI xp*c.^q5pvaw5.^*.fq=g.^q5cd,n5.^*.ho4luaw4pvaw4,maw4mvaw4j:aw
   4PI gtfxaf.akdq.akU+1D7CE y)1,lug1f!ug2fx!z.^aug0SIGNWRITING g|csqfcs1^ics.cncsi;csq&csg!!;qf!;g!erwo!;2cs.is3^j3ke
   ozqf.^h<b!<<bfy4.t^4keggbdke3keu>3bdkf5!;5bdfy5^j5ke4n,!<n,g!bdfya<cs2!;a<bd3ye!<er<bg+erfy4fyerg+4erfy4ke*digggbdke
   ig7kf3keu>ig3u>*d&s4er^j5dj5^k5ke2ernzt^g+2t^kfig7kf7fy2ye^k.t|^ku>3bdkfkeig4n,ig4kf&s5^j&s2ye^j.t|^ju>2yedjcsay6ke2
   qk.t!u>5cpu>4dju>3yekfke5.t!62ye.t!csay7n,5.t|^kbdke.t%b^pw4fy4ke4kf5SPLIT .iu.t(g!.t(fyi;.t(.t%*e(e*e.t)b^fy(e*eb^
   fy.t)fy(e*efy.t)&s1^i*e5bei;*ebe.cn*e.t%*eke6ig6NO er22nz.alFACINGS (e2ig(eig2erfy3wp2SPLIT csig3f|4ig6fy3eq.iu.^l
   .co.z<21^i=s.^o2be&s2&s.ua=sqf.cn.^li;be3&s2 dq.^o2ig.z=cs3nzbda.q&<ba.!<a.i;t^a.q&t^a.i;eq<ba.fy5kfi;t^a.kfg!eqau4
   RIPPLE g+5rv4OTHERS djgg2erwoeqayqfeqay.cneqayq&eqayg!eq.is3fy3TOUCHES er3eri;eqerg!eqqki;eqqkq&eqqkqkpg7 g!eqcsqfeq
   csi;eqcsq&eqcs<beq!<eqi;t^eq2a.q&t^eq<beweq!<eweqg!a.aui;a.auqkbxbdq&a.auyecsewg!a.ay3.is3eqqf*f.cn*fq&*fg!a.bd4kf4
   .t^3cs3er.coa.erg!<cqf<c.ua<cc).co<cpg5cp5wo1^i<ci;<cq&<cpg5 g!bdaui;bdg!u>qfu>g!bd.isggig.coyeg!yeeq3eq3*fqf*g.ua*g
   c)1^i*gi;*gq&*gpg5cp5 qf*gfy.iu*gkf6if.co*gkfpg6cp6 i;cskeg!csigi;csigg!csigerdh6kf6fy5!;5BOTH fy5.^h4wpcsg+6fy4bx4
   .z<4llerix.iuqkllerixg!qkllerwo4l%^iqk4bei;qkbe4d;4 =gq&qkpg4cp4 g!er3HEEL 3ifdh4kf4fy3wp3nzt^4bda.4*f3wobbpwc;bbpw3
   wodfpw^^pwc;b^.t^2 (e1TOUCH .cpGRASP .cpSTRIKE .cp.n+.cpRUB .cp.z>.n,2nz1.z^.|rFLICK .|r.z^FLICK r<1MOVEMENT-HINGE
   ayaud;4ab3.n:k$.n:ojaur<d;5ab2ifTO if.amu)$n^fvj$n^fu).^w.:p.fn|kgm|j3.z|2pa|kj..^sTRAVEL-WALLPLANE .^p.^r.ft2.an.e,
   by4al4da1MOVEMENT-DIAGONAL AWAY .ub2.z!.ub2nzAWAY .b&3.z!.b&vj.^w3.bo3r<,o4.bo2.fn2gm|kpa2j..^sTRAVEL-FLOORPLANE .^r
   .^p.ftu)llir.b&3.z%.b&3THREE-QUARTER boab5bl(f|kiy|j&aal2h%llal.uc4da.uc2ll.fug+2rvewab^(1.frsp2giu).ft2ll<h(f<h2iy
   <h2h%<h1.frby<hf$<h2r<<hu)ll<i(f<i2iy<i2h%<i1.frby<if$<i2r<<iu)h%dhPATH .ucvjll<tab$((f<t.r.5abda$(da2iy<t.^x<tab$(1
   .fsby<tf$<t2r<<tvjll<=ab$((f<=.r.5daabda6d;da2iy<=.^x<=ab$(1.fsby<=f$<=2r<<=vjll.ub3COMBINED (fab2iyab2h%.fv3ab3d;1
   .fssp2r<vj.ft$ou).anboabby^(by=gal^(alvj.anbo<f<gabby6blby6d;by6abal6blal6d;alu).^tFRONT by5alvj.^t.^uu)$nypby4alvj
   $nyp.^u1DYNAMIC d<ab3d;2FAST 2SLOW 2.n;2.|sSIMULTANEOUS 3r<2EVERY OTHER .vsGRADUAL 1hy2RIM 2u(g+3TILT 2vig+2u(ll2vi
   ll2,ol%a^.x$.fw^lwp.fx5aybfau8.fx1.z(g+ay3kal>1DREAMY .z(kaaul>kaggka3kaay1FOREHEAD ka2^f2^m1px=sSQUEEZED 2dk1wq
   BLINK by3,j1pxa==s.ab=sa=dk2WIDENING ,o1wqWINK 1EYELASHES ayk$2.z).udg+.hp.^+g+.hp.udrv.^+rv.ud.z.1.$aPUFFED 2ka2.^:
   .n;.$ac+3bddd1EARS 1^lka2^f2.$b2WIGGLES 1AIR .$cpg2SUCKING vuBLOW .^v2SUCK .^v1.zrINHALE 2EXHALE 1lrdkka3wp3^f2.n<3
   ^m3=sFROWN 3^m3=s:(3wp3^m3.n=.^$3^n.^$2.fy3wp3^m2.n;3wp3.^:,qPRESSED .er1LIP dia<c,2c,a<di1lr>+2.$bbyjn1,k.^yFAR 2
   LICKING ,q2n+nz,q3.z=ixlr2ixlr.|sMOVES AGAINST CHEEK 2f|.^y3ixlr1TEETH 2,o2c),k4,o3,q4,o2BITE ,qu)JAW vjJAW 1NECK 1
   ,r1EXCITEMENT 1.n>HIP SPINE 3POSITIONS 1WALLPLANE .^<FLOORPLANE .^<.n>.fxnhWAIST 1TORSO-WALLPLANE g+STRETCH 2rv.fn1
   TORSO-FLOORPLANE TWISTING 1c,BODY .fxnhHIP JOINTS 1LIMB COMBINATION 2LENGTH-1 ~6 1$n1LOCATION-WALLPLANE o%1
   LOCATION-FLOORPLANE o%1.n^HEIGHT 2.ff2DEPTH 2hyNECK 2TORSO 2LIMBS DIGITS 1fqdur&1uwfiU+1DA9B 1n&.$d~4 U+1DAA1 1.z|
   .$dipMODIFIER-10 ~6 U+1DF00 yb.kni)aaTRILL =oh!G hrb|G ;,K hrsmrmae.koo:b|yfrm=orkgwfr|*ail,T m*ai;oanl+zp;paei!hpck
   7aijugwT jvancrhojv2.n|C jvdqafb|K aesm+t3.dni)g)smrmaig(rkg)b|frg(fr+taig(.doi)g)wrg).dni)o:I &ml,eol,.doi)o:C o:S
   jvU+1E000 ou.$eac.:vU+1E008 .:$U+1E01B 3.:wU+1E023 3fs&ax(U+1E026 3.:xU+1E100 0NYIAKENG PUACHUE HMONG acMA 4i(4NTA 4
   TA sy4NA 4zi4NKA 4|^ssSA 4ZA 4NCA 4NTSA 4KA 4DA 4h;4NRA 4gy4NTXA 4TXA 4hc4<rQA 4hz4NQA 4q=XYA 4NPA 4DLA 4NPLA 4c*4
   MLA 4PLA shsj4goft4I kpt%i%t!lj4W U+1E130 3TONE-B 3TONE-M 3TONE-J 3TONE-V 3TONE-S 3TONE-G 3TONE-D 3ajj)py5THING 5.n^
   5ANIMAL 5INVERTEBRATE 4XW XW 3o..euU+1E140 3!zU+1E14E 3(wNYAJ 3djlhU+1E290 0TOTO ach.iskkkmhim+fcNA kre+ity|WA l&j+
   RA e;ib.aoib)t2.ao)tp<e*.aoe*EO 2.aoEO f.dx2.aodx2A a>nub!U+1E2C0 0WANCHO acft&=ism&kmm,h)jbe:jsPA xg2hce+j;l&jqodoc
   hifzw^RA fcqg2b&i&ibh>p<LLHA +jTRA 2ONG 2AANG 2ro2ING 2c)2EN 2AAN w,UEN 2YIH &^TUP 2TUPNI 2KOI 2KOINI emU+1E2FF 1
   NGUN ajU+1E7E0 0.iiHHYA 2HHYU 2HHYI 2HHYAA 2HHYEE 2HHYE 2HHYO U+1E7E8 .|xHHWA 2HHWI 2HHWEE 2HHWE U+1E7ED .|xMWI 3
   MWEE U+1E7F0 3QWI 3QWEE 3QWE 3BWI 3BWEE 3KWI 3KWEE 3KWE 3GWI 3GWEE 3GWE 3FWI 3FWEE 3PWI 3PWEE U+1E800 0MENDE KIKAKUI
   o.M001 KI 3M002 hkM003 &)M065 KEE 3M095 KE 3M076 )q3M048 |:M179 KUA 3M004 WI 3M005 WA 3M006 tb3M126 WEE 3M118 x,M114
   )^3M045 WO 3M194 WUI 3M143 WEI 3M061 WVI 3M049 WVA 3M139 WVE 3M007 MIN 3M008 mk3M009 MUN 3M059 z%3M094 +>3M154 MUAN
   3M189 MUEN 3M010 mu3M011 is3M012 rr3M150 (l3M097 BE 3M103 BOO 3M138 rx3M013 e%M014 c:M015 d=M163 seM100 czM165 $|
   M147 e!M137 zm3M131 cp3M135 cp3M195 ;eM178 &jM019 !aM020 SA 3M021 !hM162 +|3M116 ;bM136 )!3M079 SO 3M196 SIA 3M025
   i.3M026 e,3M027 ja3M084 LEE 3M073 mn3M054 ><3M153 pj3M110 a;mn3M016 DI 3M017 DA 3M018 DU 3M089 (q3M180 DOO 3M181 DO
   3M022 ;nM023 unM024 |mM091 (p3M055 x+M104 >q3M069 TO 3M028 zj3M029 l!M030 JU 3M157 (r3M113 JE 3M160 JOO 3M063 |&M175
   a;|&M031 :+M032 hz3M033 fs3M109 (o3M080 s)3M141 YOO 3M121 j%3M034 r$3M035 %%M036 we3M078 FEE 3M075 rl3M133 FOO 3M088
   FO 3M197 FUA 3M101 FAN 3M037 NIN 3M038 NAN 3M039 h$3M117 NEN 3M169 NON 3M176 iw3M041 b&3M186 po3M040 HEE 3M096 HE 3
   M042 HOO 3M140 le3M083 HEEI 3M128 HOOU 3M053 HIN 3M130 HAN 3M087 HUN 3M052 HEN 3M193 HON 3M046 HUAN 3M090 NGGI 3M043
   )n3M082 .lw3M115 NGGEE 3M146 .m=3M156 .m;3M120 .m<3M159 NGGAA 3M127 NGGUA 3M086 a;.m=3M106 a;.m;3M183 a;.m<3M155 nw3
   M111 okM168 lg3M190 )=3M166 GUEI 3M167 GUAN 3M184 NGEN 3M057 NGON 3M177 NGUAN 3M068 PI 3M099 PA 3M050 PU 3M081 .bz
   M051 PE 3M102 )|3M066 PO 3M145 MBI 3M062 )h3M122 MBU 3M047 .s.M188 .s.M072 MBE 3M172 .m+3M174 MBO 3M187 MBUU 3M161
   a;MBE 3M105 a;.m+3M142 a;MBO 3M132 KPI 3M092 )o3M074 KPU 3M044 KPEE 3M108 KPE 3M112 KPOO 3M158 KPO 3M124 GBI 3M056
   GBA 3M148 GBU 3M093 GBEE 3M107 GBE 3M071 GBOO 3M070 GBO 3M171 RA 3M123 NDI 3M129 >o3M125 NDU 3M191 .lz3M119 NDE 3
   M067 NDOO 3M064 NDO 3M152 NJA 3M192 NJU 3M149 )j3M134 NJOO 3M182 v,3M185 gy3M151 >r3M173 +s3M085 VE 3M144 VOO 3M077
   wh3M164 NYIN 3M058 NYAN 3M170 NYUN 3M098 NYEN 3M060 NYON U+1E8C7 2xqufy.dwTEENS 4.l=4.k:4zg4ghzg4bvzg4+%U+1E900 0
   ADLAM ag.|dae.|d1ALIF .eu|..eu1(=b>j>1ndk<1GEMINATE ndk<1j!1.l|a&U+1E950 emU+1E95E 1cen$b;oxU+1EC71 0INDIC .^>hj.n!3
   LAKHAN 2.n!b;dwKAROR 3KARORAN 3.w|!y2.kz2.=)2,gb;dwgiav4bb4gho<gi.n!a&U+1ED01 0OTTOMAN .^>o<MARRATAN 2gidwbb4df^^!x4
   gh^^bv4ecbv4bbbn4gho<.b:4.lkU+1EE00 u!^geu2jd2c|(aU+1EE05 2ontf2c*2gj2cly(2.|*2fw<q2hf2he2f<2gz2kd2j=2v|2fg2=)2je2v!
   2lf2mqjd3dl3hf3f<U+1EE21 2ce.iyU+1EE24 3hdU+1EE27 3c*U+1EE29 3cl3gx3c&.saU+1EE34 .seU+1EE39 3jeU+1EE3B 3lfU+1EE42 2
   .$hc|U+1EE47 3c*U+1EE49 3clU+1EE4B 3c&U+1EE4D 3dl3fw3f:U+1EE51 3he3f<U+1EE54 3kdU+1EE57 3fgU+1EE59 3jeU+1EE5B 3lf
   U+1EE5D 3mqdlU+1EE5F 4f<U+1EE61 2.n|.iyU+1EE64 3hdU+1EE67 .:y3gxU+1EE6C .saU+1EE74 .seU+1EE79 .:z3mqjdU+1EE7E 4hf
   U+1EE80 2LOOPED eu3.iy3v^3hd.^^U+1EE8B .|eU+1EEA1 2,l.iy3v^U+1EEA5 .^^U+1EEAB .|eU+1EEF0 2inb)d&aa.fe3c*aav^U+1F000
   0MAHJONG .n%gq(ggp(gge(ggd(gn|$p2$q$p2aq$pd%ygd(ygd)ygd.ygebygedygefygehygejygd%ykd(ykd)ykd.ykebykedykefykehykejykd%
   yqd(yqd)yqd.yqebyqedyqefyqehyqejyq2PLUM 2ORCHID 2.wkCHRYSANTHEMUM 2SPRING 2SUMMER 2AUTUMN 2WINTER 2.fz2rhU+1F030 0
   DOMINO .n%b<rh2HORIZONTAL-00-00 c$HORIZONTAL-01-00 c$HORIZONTAL-02-00 c$HORIZONTAL-03-00 c$HORIZONTAL-04-00 c$
   HORIZONTAL-05-00 c$HORIZONTAL-06-00 c$bgrh2VERTICAL-00-00 c$VERTICAL-01-00 c$VERTICAL-02-00 c$VERTICAL-03-00 c$
   VERTICAL-04-00 c$VERTICAL-05-00 c$VERTICAL-06-00 ~6 U+1F0A0 0.$i.aprh2ACE nfd(nfd)nfd.nfebnfednfefnfehnfejnfi*nf.j%
   nf2tynf2$rnf2wsnfU+1F0B1 2ACE nld(nld)nld.nlebnlednlefnlehnlejnli*nl.j%nl2tynl2$rnl2wsnl2n|.fzU+1F0C1 2ACE nod(nod)
   nod.noebnoednoefnoehnoejnoi*no.j%no2tyno2$rno2wsno2a*.fzU+1F0D1 2ACE npd(npd)npd.npebnpednpefnpehnpejnpi*np.j%np2ty
   np2$rnp2wsnp2aq.fz2FOOL 2TRUMP-1 q)TRUMP-10 ~11 U+1F100 0d!dt2fqavfqbbfqdffqb^fqdgfqecfqeefqegfqeidy0.$jdjf!d!1*if!
   d!o^d|aakb1kgg,.afajaa.n(,s0.eoqoua.^|qoS o^*bqoC 5R 1CD 1WZ 0COPYLEFT axf>qoua1HV 1),1SD 1SS 1PPV 1WC 0*iqo.it0h(MC
   atMD atMR akdjCC 1C aa.n(,s1.n&.f$0.cqqo.it0n,.cqqoP 0.cqIC 2PA e+v%2WC o|DJ *jCL 1COOL 1.n)1ID 1.aq1NG 1OK 1SOS 1ay
   aa:%VS 1dfD 1+o.ar1bbK 1b^K 1egK 1dgn:av1een:av1.ybn:bb1=$P 1avbvpbP |pD 1HC 1HDR 1HI-RES 1LOSSLESS 1SHV 1UHD 1VOD 0
   .n..mxawU+1F1E6 0REGIONAL zsawacuao|.h)HOKA *jruKOKO 2SA U+1F210 1.ugIDEOGRAPH-624B 3IDEOGRAPH-5B57 3IDEOGRAPH-53CC
   1ruDE 1.ug.$k3IDEOGRAPH-591A 3IDEOGRAPH-89E3 3IDEOGRAPH-5929 3IDEOGRAPH-4EA4 3IDEOGRAPH-6620 3IDEOGRAPH-7121 3
   IDEOGRAPH-6599 3IDEOGRAPH-524D 3IDEOGRAPH-5F8C 3IDEOGRAPH-518D 3IDEOGRAPH-65B0 3IDEOGRAPH-521D 3IDEOGRAPH-7D42 3
   IDEOGRAPH-751F 3IDEOGRAPH-8CA9 3IDEOGRAPH-58F0 3IDEOGRAPH-5439 3IDEOGRAPH-6F14 3IDEOGRAPH-6295 3IDEOGRAPH-6355 3
   IDEOGRAPH-4E00 3.$l3IDEOGRAPH-904A 3IDEOGRAPH-5DE6 3IDEOGRAPH-4E2D 3IDEOGRAPH-53F3 3IDEOGRAPH-6307 3IDEOGRAPH-8D70 3
   .$m3IDEOGRAPH-7981 3IDEOGRAPH-7A7A 3IDEOGRAPH-5408 3IDEOGRAPH-6E80 3IDEOGRAPH-6709 3IDEOGRAPH-6708 3IDEOGRAPH-7533 3
   IDEOGRAPH-5272 3IDEOGRAPH-55B6 3IDEOGRAPH-914D U+1F240 .^|.ugIDEOGRAPH-672C 5.$l5.$k5IDEOGRAPH-5B89 5IDEOGRAPH-70B9
   5.$m5IDEOGRAPH-76D7 5IDEOGRAPH-52DD 5IDEOGRAPH-6557 U+1F250 o^.muADVANTAGE 2ACCEPT U+1F260 0tqoowe=kSHOU 3>;3
   SHUANGXI 3CAI U+1F300 0CYCLONE 0FOGGY 0dk.as0.eqaaSTARS 0SUNRISE a<MOUNTAINS 1 .^%h=DUSK 0SUNSET a<.$n0RAINBOW 0^oh=
   .eq0prh%0VOLCANO 0MILKY WAY 0n*GLOBE EUROPE-AFRICA 2AMERICAS 2ASIA-AUSTRALIA 0GLOBE aaMERIDIANS 0.aq.^!=(h^axv$ir.^!
   .^.dr.|a.^..uh.|a=(h^ax=(h^0.aq.izv$ir.iz.uh.izdr.izthaaa|GLOWING oaSHOOTING oa.$oa+.$pa$th2k&.at2.^(4aa,t0.ataa,t2
   .oa2.f&2TORNADO 0FOG 0>,.$ca|):.au0TACO 0BURRITO 0CHESTNUT 0SEEDLING 0EVERGREEN vz0DECIDUOUS vz0.alvz0CACTUS 0):.|b
   TULIP 0CHERRY .$q0ROSE 0HIBISCUS 0SUNFLOWER 0.$q0=<a(MAIZE 2.av0HERB 0b^mxCLOVER 0MAPLE mx0FALLEN mx0mx.z)cp>,0
   MUSHROOM 0TOMATO 0AUBERGINE 0GRAPES 0MELON 0WATERMELON 0TANGERINE 0LEMON 0BANANA 0PINEAPPLE 0n|APPLE 0$qAPPLE 0PEAR
   0PEACH 0CHERRIES 0STRAWBERRY 0HAMBURGER 0SLICE a(PIZZA 0.f*c).f+0POULTRY s!0.avCRACKER 1sqCOOKED .av0CURRY ai.av0
   STEAMING .ob0SPAGHETTI 0BREAD 0.$rFRIES 0ROASTED SWEET .|fDANGO 0ODEN 0SUSHI 0FRIED .|jtz.ocaa.k+DESIGN 0pszlCREAM 0
   SHAVED zl0zlCREAM 0DOUGHNUT 0.|lCHOCOLATE ck0CANDY 0LOLLIPOP 0CUSTARD 0HONEY POT 0SHORTCAKE 0BENTO ;aPOT a(.i$
   COOKING .|n0TEACUP .>d0SAKE .f:ai);0.db.hzCOCKTAIL .hz.$sDRINK 0BEER MUG .|oBEER MUGS .cy.f:.|naaPLATE 0.f:aaPOPPING
   CORK 0POPCORN 0.f;0WRAPPED PRESENT 0BIRTHDAY .oc0JACK-O-LANTERN 0.oevz0.$t.oe0FIREWORKS 0FIREWORK SPARKLER 0.of0.og
   POPPER 0CONFETTI sqTANABATA vz0n,FLAGS 0PINE .$u0+.DOLLS 0CARP STREAMER 0>,CHIME 0h^VIEWING CEREMONY 0.mvSATCHEL 0
   GRADUATION CAP 0k)aan+c)f,am0.$va(FLOWERS 0.oh.r;REMINDER .f;0pu.awaaJACKS 0STUDIO .|zLEVEL SLIDER 0.oiKNOBS 0.$w.$x
   pu.ax1.ojpu.ax0FILM FRAMES 0ADMISSION TICKETS 0CAROUSEL $s0FERRIS .df0.$yCOASTER 0FISHING .f<aitz0.|zMOVIE .ok0
   CINEMA 0HEADPHONE 0ARTIST PALETTE o!,c0CIRCUS .ol0TICKET 0CLAPPER BOARD 0PERFORMING ARTS 0VIDEO GAME 0.omHIT 0SLOT
   .uyBILLIARDS 0GAME DIE 0BOWLING 0.ay.$iCARDS 0pun>0,jpu.ax0SAXOPHONE 0GUITAR 0pu.aw0TRUMPET 0VIOLIN 0puSCORE 0.on
   SHIRT aaSASH 0.$z.$$aisqSKI aiSKI BOOT 0BASKETBALL aiHOOP 0CHEQUERED pz0SNOWBOARDER 0RUNNER 0SURFER 0SPORTS .r;
   TROPHY 0$s.$&0AMERICAN .|;RUGBY .|;SWIMMER 0.wsLIFTER 0GOLFER 0.$&MOTORCYCLE 1!>.$*BAT aisqVOLLEYBALL 0FIELD .|caisq
   zl.|caiPUCK 0.op.$zPADDLE aisq.oaCAPPED $d0CAMPING 0BEACH aa.as0.az.oq0)k.$n.^%0DERELICT )k.az0CLASSICAL .az0DESERT
   1ISLAND .|>PARK 0STADIUM 0)k.azszGARDEN 0.$+.az0+..|!.$,.|!HOSPITAL 0.or0AUTOMATED TELLER .uyHOTEL 0.osHOTEL 0
   CONVENIENCE STORE 0.mv0DEPARTMENT STORE 0FACTORY 0IZAKAYA LANTERN 0+..ot0.$,.ota$.$:a+.$:0.$;aqpz<>pz0.kka+.kk0LABEL
   0BADMINTON .$$aiSHUTTLECOCK 0=*aibiAMPHORA 0EMOJI k<FITZPATRICK TYPE-1-2 3.$<~3 0RAT 0,u0OX 0prBUFFALO 0COW 0.f=0
   LEOPARD 0.$=0pc0$p0CROCODILE 0WHALE 0SNAIL 0.fv0$s0RAM 0GOAT 0SHEEP 0.a$0ROOSTER 0CHICKEN 0.au0PIG 0BOAR 0.$>0
   OCTOPUS 0.e,k>0BUG 0ANT 0HONEYBEE 0LADY .!ctz0.$stz0BLOWFISH 0.a&0HATCHING .ou.cy.ou0FRONT-FACING BABY .ou0.f>0
   PENGUIN 0KOALA 0POODLE 0DROMEDARY CAMEL 0BACTRIAN CAMEL 0DOLPHIN 0,ua|COW a|.f=a|.$=a|pca|$pa|SPOUTING WHALE 0$sa|
   .a$a|.aua|PIG a|.ova|HAMSTER a|WOLF a|BEAR a|PANDA a|PIG ^l0PAW PRINTS 0CHIPMUNK 0yhwq0=<0^l0<j,ka$.|g.brgc.!gFISTED
   gnak.$;gnakOK gnak.|hatauakCLAPPING wtakbewtakCROWN 0.ow,c0EYEGLASSES 0NECKTIE 0T-SHIRT 0JEANS 0DRESS 0KIMONO 0
   BIKINI 0.ow.ox0PURSE 0HANDBAG 0POUCH 0MANS ,v0ATHLETIC ,v0HIGH-HEELED ,v0.ow.$^1BOOTS 0FOOTPRINTS 0BUST cp.f^0BUSTS
   cp.f^0BOY 0GIRL !|0zb0.ye!|aizb>*wt*tz%>*wt1WOMEN >*wt0.f|OFFICER 0zbaaBUNNY EARS 0BRIDE aaVEIL .i&BLOND ,r!|aaGUA
   PI MAO .|.0OLDER mk1zb.cy0.oqWORKER 0PRINCESS 0+.OGRE 1GOBLIN 0.oy.cyANGEL 0EXTRATERRESTRIAL ALIEN 0ALIEN MONSTER 0
   IMP 0SKULL 0.ozDESK py0GUARDSMAN 0DANCER 0LIPSTICK 0NAIL .m)0a^MASSAGE 0HAIRCUT 0BARBER .f<0SYRINGE 0PILL 0.fycn.os
   ac0a.0GEM .o$0.fy0.$v0COUPLE aak.WEDDING 0BEATING k.>!k.bbnk0SPARKLING k.GROWING k.k)aabi,wk.$qk..a*k..o&k.k)aa.f;0
   .$|nk0k).$u0ctSHAPE aaA a%ix0.f!baBULB 0.o*axBOMB 0.o+axCOLLISION axSPLASHING SWEAT ax.$p0eyaxPILE a()|0FLEXED
   BICEPS 0DIZZY ax,x.of0.o,.ofa$.ay0bvPOINTS axMONEY BAG 0.a+EXCHANGE c(.afak.k|.ap0BANKNOTE aa)ii^.afi^EURO i^.fgak
   MONEY aaWINGS .!mai)iakSEAT 0.|pBRIEFCASE 0MINIDISC 0.sb0.|q0DVD 0.a,!)be.a,!)wujv1.$!ay0.o;0TEAR-OFF .o;0.apcs.!m2
   b+TREND 0ck.o:0CLIPBOARD 0.u|<*.u|PAPERCLIP 0g+RULER 0iuRULER 0.$%TABS 0LEDGER 0NOTEBOOK szDECORATIVE .l:0dk%bbe%b$q
   %b,w%b.a:%bBOOKS 0.epBADGE 0SCROLL 0MEMO 0.i*0PAGER 0FAX .uy.$(.$)0PUBLIC ADDRESS LOUDSPEAKER 0CHEERING MEGAPHONE 0
   OUTBOX TRAY 0INBOX TRAY 0PACKAGE 0E-MAIL axINCOMING <v<uaab+i,0dk.|t.$.pz3h(pz0be.|th(pz3.$.pz0POSTBOX 0.ebc<0.!z.uj
   zabka!h=am0VIBRATION MODE 0.ujOFF |r.uiPHONES 0.$)aa.ds0.okszFLASH 0VIDEO .ok0TELEVISION 0RADIO 0VIDEOCASSETTE 0FILM
   PROJECTOR 0PORTABLE STEREO 0PRAYER BEADS 0TWISTED bk$u0n!bkaib*:($u7aadjavnn.|ukg.|udc.|vc+.|v.&aaa.f%b=1 szavrwh%d)
   .u!.&b0.f!PLUG 0h,.|wf;.|w.f(aaINK =>0dk.f(aawv0wv0.f(0be.f(0^psz.f%b=0.$%0LINK axRADIO ^q0rhaab*i,0pnaab*i,0c)aa;:
   r.api,0SOON aabki,o!aacxi,|ravwo)sax.&cgh0INPUT ooqnaf.o<=g.o<3NUMBERS 3.n,3qn.o<0ts0.f!TORCH 0.!*.f)0NUT aiBOLT 0
   HOCHO 0PISTOL 0MICROSCOPE 0TELESCOPE 0CRYSTAL sqecmygko&;*+.ooBEGINNER 0.dwEMBLEM a+bp^qa$bp^q;tn|l%,wl%.|yo;.|y0mz
   n|map$n|mamzabn|map$abn|maoyxthm|exthmdjew.&d0ew.&daa.z%b,0wwam.a;qeco.a;qe0ooMARKS CHAPTER a$qnewc(qnohCELTIC ohzw
   axDOVE a(.mw0KAABA 0MOSQUE 0SYNAGOGUE 0MENORAH aaeiBRANCHES 0.oba(HYGIEIA 0.f.a^avp&d(p&d)p&d.p&ebp&edp&efp&ehp&ejp&
   i*p&2zrp&2tpp&2ONE-THIRTY 2TWO-THIRTY 2THREE-THIRTY 2FOUR-THIRTY 2FIVE-THIRTY 2SIX-THIRTY 2SEVEN-THIRTY 2
   EIGHT-THIRTY 2NINE-THIRTY 2TEN-THIRTY 2ELEVEN-THIRTY 2TWELVE-THIRTY bh.&azaavrwh%e).u!BULLHORN sz.u!RINGING ^p0%b
   CANDLE 0MANTELPIECE .f.a+.|$|rPIRACY 0HOLE !|cpBUSINESS wxLEVITATING 0SLEUTH bfSPY 0DARK .!|SPIDER 1WEB 0JOYSTICK !|
   DANCING bcgn.i*0.i*aawubhgn.i*a$.|&a+.|&0$tc)exa(MODEM 0CLAMSHELL .uj0rha(<v.&e<v<uaa.f&.vo<v=>a<.&e<vLINKED
   PAPERCLIPS a+.u|ut.ga2BALLPOINT =>2.&f=>2PAINTBRUSH 2CRAYON bc.&ggnmdOK gnak.|+o=.|+1.|hajk$at.&hgn1gno&$n.rq0h(gnaa
   .mgnzbdaia.pwa$aug*amgncs0wlaqaml|d*l|<>aml|d*l|a+am.!gwlaqayl|k$l|<>ayl|k$l|a+.|g.br1k..&i.:+.awai,u%dNETWORKED
   COMPUTERS .!(0POCKET CALCULATOR a+.|,a$.|,0psk>.sb0TAPE CARTRIDGE 0WIRED .aw0av^q,u*t^q,u%d^q,u0TRACKBALL x:.|p.ew
   DISK 0.ar.!(.vtFAX .vt.|q.vt.o=aa.b=3ai.o>2.o>0FRAME aa.o>2TILES 2AN X a+!)!)be!).apcsDIVIDERS 1.a,;a.a,CABINET 0,y
   =qwu2)b0n>1wu1)b0,y.o=1wu1PAGES 0.o=0wu0PAGES 0WASTEBASKET 0.e,n>)b1.o;)b0.&i.%iMINIMIZE 0MAXIMIZE 0.l%0n!apg<.a;$u0
   .f%X 0.m$.|:.yf.|:COMPRESSION x:wv0ROLLED-UP .!zwuaadj.b=0STOCK .o:0^r.f,0,q0SPEAKING hycp.f^%d>ebmb,amd*bc,xwybh,x
   wy*t,x.o^%d,x.o^bc.o,wybh.o,wybc.o*wybh.o*wy0MOOD wy0.f&MOOD wy20.uk.a<1.|<h!X !:.|<fxh!X 0bapacn.ukfxpa0WORLD )g0
   MOUNT FUJI 0TOKYO TOWER 0STATUE a(LIBERTY 0.f^a(JAPAN 0MOYAI .vua^zap*yhg>.%mp*g>belr5aip*px6.ul6.&jpx3HALO 3HORNS 0
   .&k.ump*yha^SAVOURING DELICIOUS .i$.&l.um.&mpx3.!|SMIRKING a|kaa|EXPRESSIONLESS a|UNAMUSED yi.ul0PENSIVE a|CONFUSED
   a|CONFOUNDED a|.o|a|a^THROWING A .fy0.o|g>p*px3dkyhg>STUCK-OUT ,k4ai.&kwq5.&jyh.&na|WORRIED a|ANGRY a|.o!a|.o%a|
   PERSEVERING yiLOOK a(TRIUMPH 0.&n$e.&la|.o(g>be<jANGUISHED a|FEARFUL a|WEARY a|SLEEPY a|TIRED a|GRIMACING a|LOUDLY
   .o%yibe<jHUSHED yibelrai.ul1SCREAMING cpFEAR 0ASTONISHED a|FLUSHED a|.o+a|DIZZY a|a^.e:lrszMEDICAL .n..vupcg>p*yhpc
   g>.%mp*pcg>belr4.&myhpcg>WRY .n<0.o|pcg>dkyh.o!pca|.o%pca|WEARY pca|.o).|^a|UPSIDE-DOWN yi.&opx&vGOOD .&p2OK .&p0py
   BOWING DEEPLY 0SEE-NO-EVIL .a$0HEAR-NO-EVIL .a$0SPEAK-NO-EVIL .a$0HAPPY .|=avyl.|=BOTH wtcpCELEBRATION 1.o(sz.o!a^2
   FOLDED wt0gf.i+yj.i+k*.i+grg*mxmdgfg*mx1yjg*mx1k*g*mx1gr.i+gf.i:yj.i:k*.i:gr.i,mxc(gf.unyj.unk*.ungr.i:gf*=0yj*=0k*
   *=0gr*=c(gf*=1yj*=1k**=1gr*=0HOLLOW .||a*k(SOLID .||a*bpc%.a=ga.a=c^.a=f).a=0h!dmrpg&c(h!dmrpyrdmberpg&c(dmberpm(,h
   yr.gb,hyrf!bwalb|<k3<ks=al<kc(.a>yrf!.a>g&c(f!.a>yrhun<2us0.i;0ry.i;0.a=0HELICOPTER 0STEAM .%y.gc!>HIGH-SPEED TRAIN
   zawz^l0TRAIN 0METRO 0baRAIL 0STATION 0TRAM 1!>BUS 0.a^BUS 0TROLLEYBUS 0BUS ds0MINIBUS 0AMBULANCE 0ts.%>.f|!>.a^.f|!>
   TAXI 0.a^TAXI 0.&q0.a^.&q0RECREATIONAL VEHICLE 0DELIVERY .vyARTICULATED LORRY 0TRACTOR 0MONORAIL 0$d.gc0.o..gc0$d
   CABLEWAY 0AERIAL TRAMWAY 0.kj0ROWBOAT 0SPEEDBOAT vn.pabax%.paba0.oqak.f|CARS .$|ba0iupzc)POST 0DOOR .|%ak.|(NO .|(
   PUT .&rcpITS .a|axDO cw.&raxPOTABLE praxNON-POTABLE praxBICYCLE |rBICYCLES 0.&s0$d.&s0.ww|rPEDESTRIANS 0CHILDREN lp0
   MENS axWOMENS axRESTROOM .cyaxTOILET 0prCLOSET 0SHOWER 0BATH 0.wr0PASSPORT .oi0CUSTOMS 0BAGGAGE CLAIM bc.%!cyaatq>+0
   PROHIBITED akdj.oz.v&BOYS axGIRLS axCOUCH aiLAMP 0.o+ACCOMMODATION 0.&tBAGS 0BELLHOP ^p0BED 0.a|a(WORSHIP 0OCTAGONAL
   ak.&tTROLLEY 0STUPA 0PAGODA 0HINDU TEMPLE 0HUT 0ELEVATOR U+1F6DD 0PLAYGROUND SLIDE 0.df0a.BUOY 0.f)ai.!*.kh0OIL .ai0
   MOTORWAY 0.gcTRACK 0MOTOR BOAT 0mz.oh,z1,zi>,zo;,z0NORTHEAST-POINTING ,z0,z.z;1ARRIVING U+1F6F0 0.$(0.a^ts.%>DIESEL
   .%yPASSENGER .kj0.&u0MOTOR .&u0CANOE 0SLED .voSAUCER 0SKATEBOARD 0AUTO RICKSHAW 0PICKUP .vy.$ySKATE U+1F700 0
   ALCHEMICAL ooQUINTESSENCE 3AIR 3ts3n*3pr3AQUAFORTIS 3AQUA REGIA 4REGIA-2 4VITAE 4VITAE-2 3.&v3VINEGAR-2 db.ur
   PHILOSOPHERS .ura*.ur.&w.a!4SUBLIMATE-2 dbCINNABAR 3ti3NITRE 3VITRIOL 3VITRIOL-2 3ROCK ti4SALT-2 3.dc3SILVER 3IRON
   ORE 4ORE-2 .|).!a.&x.!a.i<(hIRON-COPPER (h.a!.i=.|).i=5COPPER-2 3.i<.&y3ti.i=.&y3.a!a(ti.i=3VERDIGRIS 3TIN (hLEAD (h
   .cs(h.a!.ct3ti.ct3.a!a(ti.ct3.&v.ct3.&x.ct5ANTIMONY-2 43REGULUS-2 vqALKALI 3ALKALI-2 3MARCASITE 3SAL-AMMONIAC 3
   ARSENIC 3REALGAR 3REALGAR-2 3AURIPIGMENT 3BISMUTH (hTARTAR 3TARTAR-2 3QUICK LIME 3BORAX 3BORAX-2 dbALUM 3OIL 3.pb3
   TINCTURE 3GUM 3WAX 3POWDER 3CALX 3TUTTY 3CAPUT MORTUUM 3SCEPTER a(JOVE 3.&z3.dw3STARRED .dw3LODESTONE 3SOAP 3URINE 3
   $sDUNG 3ASHES 3POT ASHES 3.pc3POWDERED .pc3AMALGAM 3.&$SUPER .&$5STRATUM-2 3SUBLIMATION 3PRECIPITATE 3DISTILL 3
   DISSOLVE 3DISSOLVE-2 3PURIFY 3PUTREFACTION 3CRUCIBLE 3CRUCIBLE-2 ~3 3.&&3BATH a(MARY 5VAPOURS 3RETORT 3HOUR 3.eq3
   DAY-NIGHT 3.kb3a=DRAM 4OUNCE U+1F780 a+h,.i!mz.i!f;.i!p$.i!.o)abhmblfx<lfxaqboc(<lhu<l!.aqboa$bo.i^hm<*.us*l.o)abk(
   baaqk(blaqk(fxaqbpc(aqk(huaqk(!.aqbpa$bp.!bbp^(k(bp.usct1.b*ct1blabcta$ct.!bct^(ct0ct.usn%1.b*n%1blabn%a$n%.i^n%0.gd
   <mba<mbl<mfx<mhtfxs|ew1bw<m!.<m.gdyybayyblyyfxyxc(yyhuyy!.yyba.cubl.cufxdg.uo.cuhu.cu!..cuba.czbl.czfxec.uo.czhu.cz
   !..czba.i|bl.i|fxeg.uo.i|hu.i|ba.!duv.!dmy*nbab^uvblb^uvb^uvblb^my*nrybab^my*nbadguuymdguvblecuuymecuvecmy*nbleguuym
   eguvhueguuymegmy*nbatpuuymtpuugk3*ndjma*imadjk(*ibpU+1F7E0 ;t.a:l%.a*l%$ql%.o&l%.pdl%n|*l,w*l.a:*l.a**l$q*l.o&*l.pd
   bpU+1F7F0 c(q$U+1F800 q*abjp<nabjpngabjpu^abjpq*bljp<nbljpngbljpu^bljpq*d;jp<nd;jpngd;jpu^d;jpU+1F810 q*abp^<nabp^ng
   abp^u^abp^q*p^<np^ngp^u^p^c(b*bzsgcxbzsgbkbzsgb+bzsgb*.upcx.upbk.upb+bzd;p^.bq^s.cw^s.c&^s.c,^s.i%bl.cwbl.c&bl.c,bl
   .i%fx.cwfx.c&fx.c,fx.i%bw.cwbw.c&bw.c,bw.i%hu.cwhu.c&hu.c,hu^tc%.gehv.gee<.gei:.ged+f>hvf>e<f>i:f>d+$vhv$ve<$vi:$vd+
   bw$vhvbw$ve<bw$vi:bw$vd+bwhvbwe<bwi:bwa!U+1F850 c%f!hvf!e<f!i:f!bigff!%af!<of!srf!<wf!.c:f!a!U+1F860 0.&*b*%ccx%cbk
   %cb+%cgfba.c*%cgrba.c;%cb*m=cxm=bkm=b+m=gf.c*m=gr.c;m=b*%ecx%ebk%eb+%egfbl.c*%egrbl.c;%eb*%icx%ibk%ib+%igfbw.c*%igr
   bw.c;%ib*hum=cxhum=bkhum=b+hum=gfhu.c*hum=grhu.c;hufna!U+1F890 c%jpgajpc^jpf)jpc%.i.ga.i.c^.i.f).i.q*wwc.<nwwc.ngww
   c.u^wwc.c(a!.!e4ava=5rgc%BOTTOM-SHADED %fgl.peaqd+ex.pe%fex.peaqd+.pf%f.pgaqd+.pg%f.pfaqd+.uqe<.uqd+.ute<.utbiaqa!
   .!eU+1F8B0 0a!g*cx.fugf2bk.uuyjU+1F900 o^ewFORMEE aa*o4kn3 bca=yn*o4id4kn4a%30DOWNWARD .$!bx2wwbx2bxdo2wwbx*>PINCHED
   pwa$k..pdk.PINCHING ylZIPPER-MOUTH a|MONEY-MOUTH yi.$o0NERD a|THINKING yiHEAD-BANDAGE 0ROBOT a|.&+a|aja(f,HORNS 0.l,
   ME ylh(rha(yl.gf.ph0.gg.ph0HANDSHAKE 0gnaacsaibdpwn,0I .osYOU gnakg>COWBOY ,c0CLOWN a|NAUSEATED a|.&oc)f,<<LAUGHING
   0DROOLING a|LYING a|a^.al0SNEEZING yiavEYEBROW h(.vug>gkpxfld;aiavabwq0g>$n.pidk,q0SERIOUS g>.n,.pi<j.!faign.pi<jg>
   belrVOMITING 0SHOCKED g>EXPLODING hy0.&,zb0BREAST-FEEDING 0PALMS ay.er0SELFIE 0PRINCE !|cpTUXEDO 0.&:.oe0SHRUG 0py
   DOING CARTWHEEL 0JUGGLING 0FENCER 0MODERN PENTATHLON 0WRESTLERS 0prPOLO 0HANDBALL 0DIVING .n.0WILTED .ay0.aiaa
   DRUMSTICKS .|oGLASSES 0TUMBLER .hz.pj0.e!NET 0RIFLE 0v$.uv+o.uvrg.uvBOXING GLOVE 0MARTIAL ARTS UNIFORM 0CURLING .o$0
   LACROSSE .ooaisqSOFTBALL .vo.kf0CROISSANT 0AVOCADO 0CUCUMBER 0BACON 0.|fCARROT 0BAGUETTE BREAD 0$qSALAD 0SHALLOW PAN
   a(.i$STUFFED .%)EGG 0GLASS a(MILK 0PEANUTS 0KIWIFRUIT 0PANCAKES 0DUMPLING 0FORTUNE .|lTAKEOUT ;aCHOPSTICKS 0.obaa.pj
   0);aaSTRAW 0COCONUT 0BROCCOLI 0PIE 0PRETZEL 0CUT a(.f*0SANDWICH 0CANNED .i$LEAFY $q0MANGO 0h^.oc0BAGEL 0.!faidfnk0
   YAWNING .umTEAR 0g>.ogc<ai.og,c2UNEVEN pxais%<jOVERHEATED a|FREEZING a|NINJA 0DISGUISED a|a^>*rhTEARS szPLEADING yh
   SARI 0LAB COAT 0GOGGLES 0HIKING BOOT 0^e,v0CRAB 0LION a|SCORPION 0TURKEY 0UNICORN a|EAGLE 0DUCK 0BAT 0SHARK 0OWL 0
   FOX a|BUTTERFLY 0.j.0GORILLA 0LIZARD 0RHINOCEROS 0.|jSQUID 0GIRAFFE a|ZEBRA a|HEDGEHOG 0SAUROPOD 0T-REX 0.$*0
   KANGAROO 0LLAMA 0PEACOCK 0HIPPOPOTAMUS 0PARROT 0RACCOON 0LOBSTER 0MOSQUITO 0MICROBE 0.&;0SWAN 0MAMMOTH 0DODO 0SLOTH
   0OTTER 0ORANGUTAN 0SKUNK 0FLAMINGO 0OYSTER 0.&<0BISON 0SEAL 0GUIDE .au0PROBING CANE 0EMOJI COMPONENT n|,r2ih,r2BALD
   2aq,r0.f+0s!0.gh0.gi0SUPERHERO 0SUPERVILLAIN 0.pkVEST 0=<aaHEARING AID 0MOTORIZED .pl0MANUAL .pl0MECHANICAL .an1s!0
   CHEESE WEDGE 0CUPCAKE 0tiSHAKER 0.&=;aGARLIC 0ONION 0FALAFEL 0WAFFLE 0BUTTER 0MATE DRINK 0zl.pm0wyTEA 0TROLL 0
   STANDING py0KNEELING py0DEAF py0g>MONOCLE 0ADULT 0.kg0OLDER ADULT 0BEARDED py.i&HEADSCARF 1cpSTEAMY ROOM 1CLIMBING 1
   cp.dq.fw0MAGE 0FAIRY 0VAMPIRE 0MERPERSON 0ELF 0GENIE 0ZOMBIE 0BRAIN 0.a:k.BILLED CAP 0SCARF 0GLOVES 0COAT 0SOCKS 0n|
   GIFT <vFIRECRACKER 0JIGSAW PUZZLE .fp0TEST TUBE 0PETRI f^0DNA alHELIX 0COMPASS 0ABACUS 0tsEXTINGUISHER 0TOOLBOX 0.pc
   0MAGNET 0.%!LOTION .f:0SPOOL a(.pn0BALL a(YARN 0.pkPIN 0TEDDY BEAR 0BROOM 0BASKET 0ROLL a(.gj0cka(SOAP 0SPONGE 0
   RECEIPT 0NAZAR AMULET 0ka.wla$.uw<p.uw<x.uw<^.u$<p.u$<x.u$<^.uz<p.uz<x.uz<^.u;a+.u;0ka.u;a$.u*<p.u*<x.u*<^.u=<p.u=<x
   .u=<^.u,<p.u,<x.u,<^.hqa+.hq0ka.hqa$.u+<p.u+<x.u+<^.!ha+.!hU+1FA60 0XIANGQI n|.!i<>.!iU+1FA70 0BALLET SHOES 0
   ONE-PIECE SWIMSUIT 0BRIEFS 0.po0THONG .$^U+1FA78 0DROP a(BLOOD 0ADHESIVE BANDAGE 0STETHOSCOPE 0X-RAY 0CRUTCH U+1FA80
   0YO-YO 0KITE 0PARACHUTE 0.wx0MAGIC WAND 0PINATA 0NESTING DOLLS U+1FA90 0RINGED PLANET 0CHAIR 0RAZOR 0AXE 0DIYA LAMP
   0BANJO 0.oh.dd0ACCORDION 0a;.ai0COIN 0.wySAW 0SCREWDRIVER 0LADDER 0bx0.&>0.%iPLUNGER 0SEWING NEEDLE 0KNOT 0BUCKET 0
   ,uTRAP 0TOOTHBRUSH 0.&^0PLACARD 0ROCK 0.&>sq.&|.ap0dc.&b0HAMSA U+1FAB0 0FLY 0WORM 0.!cCOCKROACH 0POTTED PLANT 0WOOD
   0.gn0.dq0CORAL 0,yNEST 0NEST aaEGGS U+1FAC0 0ANATOMICAL k.LUNGS 0.xo.&+0.&,mk1py.i&CROWN U+1FAD0 0BLUEBERRIES 0^p.|b
   OLIVE 0.%)TAMALE 0FONDUE 0TEAPOT 0POURING .wt0BEANS 0JAR U+1FAE0 0MELTING a|SALUTING yibepxaigna<lr2PEEKING wq2dh<j
   dzd:a|.ycLIP 0.o^U+1FAF0 0gnaacs$naiern,c^gnc%yl.alaugn1ayylcsg*h=f,VIEWER 0k)wtU+1FB00 0hgSEXTANT-1 ~1 1SEXTANT-12
   1SEXTANT-3 1SEXTANT-13 1SEXTANT-23 1SEXTANT-123 1SEXTANT-4 1SEXTANT-14 1SEXTANT-24 1SEXTANT-124 1SEXTANT-34 1
   SEXTANT-134 1SEXTANT-234 1SEXTANT-1234 1SEXTANT-5 1SEXTANT-15 1SEXTANT-25 1SEXTANT-125 1SEXTANT-35 1SEXTANT-235 1
   SEXTANT-1235 1SEXTANT-45 1SEXTANT-145 1SEXTANT-245 1SEXTANT-1245 1SEXTANT-345 1SEXTANT-1345 1SEXTANT-2345 1
   SEXTANT-12345 1SEXTANT-6 1SEXTANT-16 1SEXTANT-26 1SEXTANT-126 1SEXTANT-36 1SEXTANT-136 1SEXTANT-236 1SEXTANT-1236 1
   SEXTANT-46 1SEXTANT-146 1SEXTANT-1246 1SEXTANT-346 1SEXTANT-1346 1SEXTANT-2346 1SEXTANT-12346 1SEXTANT-56 1
   SEXTANT-156 1SEXTANT-256 1SEXTANT-1256 1SEXTANT-356 1SEXTANT-1356 1SEXTANT-2356 1SEXTANT-12356 1SEXTANT-456 1
   SEXTANT-1456 1SEXTANT-2456 1SEXTANT-12456 1SEXTANT-3456 1SEXTANT-13456 1SEXTANT-23456 0ut.!jcohgdh.!ngchgdh.!oilap
   .!jgchgdh.!ncohgdh.!o1d>.!kopd>iu.hghgilg<.!kaic,d>iu.r+.i(il.i(bh.i(0di.i(x%.!lvn.!lbcopsi2c,sibhaic,si2disiilopsi
   vnavmtBLOCK-1358 il.!pbh.!pbca=o,bha=o,ila=o,0dia=o,0t$o,il<yopa=t$o,2t$o,op<yU+1FB94 bca=t$o,d><y0.i;n&0t$.i;n&c(b<
   n&il&fapn&coTO utn&1opiu<ybcd>iu<yilamiuo,coiuo,0oyiuo,gciuo,0.!qdh.u:am8&l&gf|5.!rc,w>&gf|8.!r&gw>bdap7.u:&l.u:amai
   .u<8apai&gf|9TO diw>bdam8&fw>bd&l.hkw>.u<5apTO c,w>&gf|4ct3b<:!0ARROWHEAD-SHAPED .a)0t$paa&bca=.onmkbha=.onmk0t$b+bz
   n+b*c%.!sc^.!sf)a!d>sigaa!d>sibca=!(bha=!)VOIDED s|ewbhbef>;**hdhew2.u<2cta$bwyxaatq>+bc.u>0bd.u>bh.u>0.cq%g.oo.f$za
   ARMS h(2LEANING .i)zaDRESS a$mz.&!U+1FBF0 0SEGMENTED elU+E0001 0LANGUAGE (.U+E0020 0(.o%1.>x%u.&%(.U+E0100 0)&
   SELECTOR-17 ~82 1SELECTOR-100 ~156"

end Covenant.Text
