namespace Covenant.Text

def symbolNames : String :=
  "U+2000 0EN :,0EM :,0EN o(EM o(THREE-PER-EM o(FOUR-PER-EM o(SIX-PER-EM o(.f$o(jco(.gdo(,ro(d|.ffo%2NON-JOINER 2+y0)w
   cn.g<cnpq0NON-BREAKING pq0.f$ey0EN ey0EM eyvnckf&k:1x&bcby$)bhbyxvby.(u$)bcal$)bhalxval.(uxv^rf&^r0%;iu%;av.t**t.t*
   vn$i0.w=n:0d:j,0.bcj,0)w.(,.g<.(,.(qFORMATTING 0)w.(^.g<.(^^s.nmo(.%hatghbnaktrf&tr%<tro=troetr1datr0wm0byh,e|xub>f;
   e|xvREFERENCE cnaln$cn.a>0$j0.+u0$b>:0wm.k$n:0ASTERISM 0pq%;pkkb*p.ji*u.jif&%gown$cnn$%g.(vrpo=.!ua*b*wz1bk%;dckwb(
   r&0CLOSE ay*tASTERISKS ALIGNED .e(0.fdkhakSWUNG ey0cr.+u0.ayjccndf:r0rqtr0b^:r0dg:r*t:r0b^a%cndzoh.xhx%*o0bl^go(lc+y
   0.+vAPPLICATION 0INVISIBLE az1x^arU+2066 0)w.j$.g<.j$v$.+i.j$.(q.j$.+w.)d.+x.)d.+w.(y0.+x.(y.|>.(w0NOMINAL .(w0=^d|
   |pI U+2074 .:,.(z|pN 0.gsd|.!t.(zU+2090 ya.jegot,t%X 4t*4H 4K 4L 4M 4N 4P 4S 4T U+20A0 0EURO-CURRENCY akh+akCRUZEIRO
   ak.$rFRANC akLIRA akMILL akNAIRA akPESETA ak,gakWON ak.aqSHEQEL akDONG akEURO akKIP akTUGRIK ak.kcakGERMAN PENNY ak
   PESO akGUARANI akAUSTRAL akHRYVNIA akCEDI akLIVRE TOURNOIS akSPESMILO akTENGE akINDIAN ,gakTURKISH LIRA akNORDIC a&
   akMANAT akRUBLE akLARI akBITCOIN akSOM ajU+20D0 ouamfmaocofmb:a;k:nnb%k:nnkga!b:n!a!b:ami,coa!b:a.nnn!a.nnkga.nnidb:
   *ob:.+ybo2bp2ct2bo,sgcapa!b:.+y.ar2.&c2.ygg*&iusnmoem<nnANNUITY gtdaUNDERDOT 1.ab^ob:b*a!nna;aln<nnbkfob+1b*fob+gca!
   a:apa!a:j(aoU+2100 0.+zq!ADDRESSED TO f,SUBJECT .c(C 0.foCELSIUS 0f|d:axCARE q!CADA UNA 0EULER .+$0SCRUPLE 0.fo
   FAHRENHEIT 0h!abG s*H 0.c>H .c(H 0PLANCK .+$2a<bbPI .c)I 0.c>I .c)L i>L 0L B ckax,lafN 0NUMERO akrwRECORDING .&(.c)P
   .c(+aQ .c)R 0.c>R .c(R 0PRESCRIPTION TAKE 0.z,0SERVICE cn$takTRADE a&akVERSICLE .c(Z 0OUNCE akOHM akcrOHM ak.c>Z md
   s|adlt0KELVIN akANGSTROM akh!afB 0.c>C 0ESTIMATED axh!abE s*e*F mdafF .c)M i>O 0euaxBET axtcax.e<ax.oz.v&lmafQ 0
   FACSIMILE ak,laby:n^s*n^2PI 1^*.g=mdf!afG m$o=f!afL mdf!afY 0,l*cD dqD ete%J 0PROPERTY d:md,h0PER akAKTIESELSKAB md
   abF 0oo.*n.v&.pppkavSEVENTH 3NINTH 3.k=3rgd(zf.s*d(.q;d).q;d..q;d%.lkeb.xgd%mtd).a(eb.a(ef.a(0pk.*rav.h&s(aveki*2zr2
   tp2ld$!ebbvd%bno;ROMAN s(avufog3zr3tp&bqj|aflbn.h&s(avbnC D ebbni*o<b(avbvybb(C .h&s(ecLATE chldEARLY ccbn$!bn0.pppk
   d|zfmdd^bbd)U+2190 c%hve<i:<w.c:bigf%a<osrd+bzb=ngb=c%h%e<h%d+.jjhv.jje<.jji:.jjd+bzc.ngc.c%njganjc^njf)njslaubz.dg
   q*bxngbxq*iyngiy%wh%m%bzb=f),phvbzn+b*4bku^n+b*4bknggmb+u^gmb*0kgex.a;bin!ex.a;bigfa!TO a;ckc%*)a<bk*)0kg:(bin!:(d+
   focx4b+gafobk4b*c^focx4b+f)fobk4b*c^a!a<b*hv.jmb+d+a!a<bkg,**ga**c^**f)**c%fma<bkfmc^fma<b*fmc%<!b=%w<!b=c^<!b=c%al
   hvale<ali:al<wal.c:albigfal%aal<oalsrald+dae<dad+.g>e<.g>hvbzalb=u^alb=c%n;hvn;e<n;i:n;d+*)c^*)c%aqhv%faqi:aqhvaqnj3
   c).+&l^&.6fpf$a!4c).+&c^aqa!nh<g0gfa!TO gm0gra!TO gmslauaqbiapbzabbof).jmcxbidfbk$uq*m<ngm<%wbzm<q*&ung&u%wbz&uc%.q<
   e<.q<<w.q<bij).aj0COMPLEMENT 0.ho0THERE EXISTS 1vcEXIST 0,y>p0INCREMENT 0.fq0*+q!cwAN *,o;*+q!$*AS .g^0vc.vz.g^o;$*
   AS .g^0qcPROOF 0^*|u1.+*1.g=0khakMINUS-OR-PLUS aka%ar0$xkb0>pkh0j(ioa.iowziobp.bb0.pm.bb0.di.bb0PROPORTIONAL $%^&bh
   |s|s.bi.(*|sDIVIDES 0vc.q=0$o$%cw$o$%yv1bf0jh0ki0w&f&xwdaxw.v$.z>xwVOLUME xwn!w&1.v$kg.v$THEREFORE 0BECAUSE 0RATIO 0
   .++0a%kh0EXCESS 0GEOMETRIC .++0.*c0a)iob(%ucrLAZY S 0SINE h%0WREATH |vcw%ukh%u.(+cw.(+.bj|t$ecw.(:.q>.bjw$.(:vecwve
   vdjjk%da%u.ajjl|g.+,|gDIFFERENCE nz0APPROACHES f,LIMIT 0.+,jl.bjjkbff,^+q!.jk.bjjlh+kc0kch+0a.cp|tjlCORRESPONDS $%
   ESTIMATES 0EQUIANGULAR $%gkkc0rijljk,bDEFINITION 0.bi,b0QUESTIONED jlsd.g|$%cw.g|$%STRICTLY %xjtk%c>k%dna<jlc>a<jldn
   $esdc>$esd.l*.wmnz0cw%x1.wm.v^|tc>w$jldnbf%xijbf|g.v^%x1c>w$%xjtbfc>ijbfdn0.v^c>1c>w$dn0n(0n)0n(k%n)k%n(bf|gn)bf|gvc
   .+:..:0izq!jiq!cwA y,2jiq!y,k%*|k%.q>A y,w$jk2*|w$jly,aasd*|aasdMULTISET 1=e1kio|^+a(1.g!a(1.jk.(<|tCAP 1);o^.(|$xkb
   1a%in1a.in1j(in1kc1ey*j.(|a%inbhfvbcfv0*zslfv0ASSERTION 0MODELS 0.q^0FORCES %<fp.(=alap,,0vcPROVE 0cw.q^0vcFORCE 0
   .+;alfpalap,,0n(wo.q|0n)wo.q|0*;q!$*AS *;0*;a(k%$*AS *;k%.g!q!^+q!.q!0HERMITIAN CONJUGATE MATRIX 0INTERCALATE 0XOR 0
   NAND 0w$bhe|aap;1ma^*yv2bf1jh1ki0ctioa%iogkio$xaz0.q%bc*:.k^.c^bh*:.k^.c^bc.c^bh.c^o=a)kc0ih.jl2aif&iz1ji1jh1ki0.+<0
   jjai$oTO jtdoij*>ht.l*dn2c>jtjkbfc>ij.c|0.c|3c>3n(3n)0vc.+:bfjj..:bfjj0cwbp.jkjk2.g!a(k%bp.jkcw.(<sddn$ecw%xij.v+n(
   .v+n).v+cw*;q!vc.vz*;0cw*;a(k%vc.vz*;bfjjx%$i0.+sb<$islapdh$i0auapdh$i0*,aaa;l=3.jno;*,aa.jn0*,e&3,:o;*,<%0*,*!d$b<
   .qe0$*aaa;l=2.jno;$*aa.jn0$*<%o;$*<%0%zBAG MEMBERSHIP 0DIAMETER ak.f!bi)ksld<0aud<0PROJECTIVE 0PERSPECTIVE 0s%d:bc<s
   bh<sbc<<bh<<+c.(%o!.(%o=cwakbpn%0p;0.ll0SECTOR 0$tRECORDER 0.fwzs0VIEWDATA k(.a|a(INTEREST akb|cwakWATCH 0.g%o!.(.+c
   .(.o!a=xwgla=xwFROWN 0.n<sld<nzbbb<.ds0OPTION wv0ERASE .v,0X .((.aw0h,l:0f;l:0ERASE TO f,am0.(!0CYLINDRICITY 0.aj
   AROUND-PROFILE 0SYMMETRY 0TOTAL RUNOUT 0DIMENSION ORIGIN 0CONICAL TAPER 0SLOPE 0COUNTERBORE 0COUNTERSINK 0.()I-BEAM
   3SQUISH :,::jj4.q=4ct4$f4bo|z^,4$f3kbck3,sck::kb4,s4dn4c>3b*VANE 3bk.v:.v;a!|z,sl>fvi$3ri^,::auwm4ril>fv$f3cx.v:cxa!
   ggfv,:3DEL ^,::aywm4DEL ggfv$f3b+.v:b+a!3QUOTE i$3rii$3cti$3$fi$|zi$gg,v$f3QUOTE :,|zgk::h+ggfvbq3DEL bq3gkbq3$fbq|z
   bql>,v^,3am,v^,3a)bq3c>bq3dyck3DEL a)3ZILDE 3^,a)3r&i$::cwjj4owl>wma)ggwma)^%3j::d3fui$3lui$^%i$:di$3fu0cwpaa&bhe|aa
   b+,pbiSHOULDERED be;a^paxk:o&;*.k$axCONTINUOUS .)aDISCONTINUOUS .)a.*fax.q(aw.v<f|k:0ENTER ax.nfwvaxHELM axdj&.aa
   NOTCH 1cyau0>!ynNORTHWEST biUNDO axMONOSTABLE axHYSTERESIS axOPEN-CIRCUIT-OUTPUT H-TYPE gtL-TYPE ax
   PASSIVE-PULL-DOWN-OUTPUT axPASSIVE-PULL-UP-OUTPUT ax.om.k!awcbbb0SOFTWARE-FUNCTION ax.():,0.psj,wvaxPREVIOUS wu0NEXT
   wu0PRINT .araxCLEAR .arax&q.)bbhfi.)b*p.)igm*u.)igmbcii.)eii^:bhii.)ew&^:vnd:^:ilambfoyiiivcobfutiiiv0.g=ex1glo!ob+c
   obc;exob0.etawglbcbgj.d:bhbgj.d:vnSCAN LINE-1 2LINE-3 2LINE-7 2LINE-9 0DENTISTRY awbabgaiexw;gl&l+dl>gb+dgggb+d|yaa
   cyl>gbaacygggbaacy|yaih%l>gbaah%gggbaah%l>gbgggb|yaiexam5glamo|.gh0.esaxEJECT axk:^:0METRICAL ez1a;a<b%1b%a<a;1a;a<
   bb.po1bb.poa<a;3.g(1.z&1.z*1.z+0n*.))FUSE o!fi+cfio!ii+ciio!k|+ck|a$TRAPEZIUM 0.(!aahmSTRAIGHTNESS 0FLATNESS 0AC .k!
   0ELECTRICAL jh0.psEXPONENT awa+f;al&ih,al&imzal&ip$al&if;.)ch,.)cf;cyhp%|ALARM .f.0STOPWATCH 0TIMER .f.0.g%aaFLOWING
   SAND a+blh,cy2f;cy2mzcy2p$cyf&fpa+bpj)ds1boj).+=0.mygtON-OFF gtc)gtSLEEP axOBSERVER wqaxooNULL 2.d;a(HEADING 4.b=2
   .b>4.+>2ENQUIRY 2..;^p2BACKSPACE 2b<.+^2d:.mfrb.+^2cb.mf2CARRIAGE .es2SHIFT pg3vuDATA LINK ..<DEVICE .oi!w^^2*h..;
   SYNCHRONOUS IDLE 2qc.+>hg2.&%2qcbl..=2..<.a,j,2GROUP j,2.+=j,2.dhj,2o%2.+|0BLANK axbe;aoo.+!2.+|cbbb..=cbbbU+2440 0
   OCR bx1CHAIR 1.od1cr.od1rmBUCKLE 1=*>:1.q).or.&|1AMOUNT a(pa1ey1CUSTOMER .+zdwoe,sU+2460 o^.)f0.eo.)f0xqdubbdudfdub^
   dudgduecdueeduegduei!cdwghduzrdutpdu.d^du.d|du)rdu>tdu.d!du)sdu.d%dupb!c.eo^!uao^qoua2adua1d!0*idwzr3tp3.d^3.d|3)r3
   >t3.d!3)s3.d%3pbf&dj.si0*id!0.!qb<k+b<i|bgk+bgi|;db<k+;db<i|;dbgk+;dbgi|rqeyb<k+rqeyb<i|rqeybgk+rqeybgi|aud>k$.)gau
   d>i|aug<k$.)jaug<i|ayd>oj.)gayd>i|ayg<oj.)jayg<i|bgd>rbbad>%$:uau<(:uaybarb:u<(bad>ay%$bad>.v|bgd>i|bgg<rb|i%$x*au<(
   x*aybarbx*<(|iay%$|i.v|bgg<i|augbk,.)hx*au<(.)mau.v).v|augbi|aygbk,.)lx*aybaoj.)may.v)aybwk+aygbi|bggbk,:ubgbad*x*bg
   barbbagb%$bwaiaub<<(bwaiayb<barbbwgbbak,ay.)hayx*aubak,au.)laux*ay<(baaiayb<%$baaiaub<bwd*|ibg.v)bgbwk+bggbi|%&b<k+
   %&b<i|%&bgk+%&bgf$b<|yk$by.v!spaud>k$by.v.spaug<ojby.v!spayd>ojby.v.spayg<rbby.v!spbgd>rbby.v.spbgg<k$by.wjspaugboj
   by.wjspaygbrbby.wjspbggbi|p;aud>6am4ayg<6ap3dh|eTO ut5&f&lew3amgguzl>k+amgguzl>i|amaibwapggaibwauk+amaibaapggaibaau
   il<y0disi2ir.sda=hg1.:&0drhgbcee.hh.r+dg.hha=.sd,.hg2mthgbh<y0bao+0o,0DARK o+ilsibhsi0,;utd*1c,am3opamopw;&l|eopam8
   apd*3opam6opapa+bpa$bpzatq>+2.i^k(bpaab<n&rbn&2ORTHOGONAL .)k2c,&fapn&uzTO utn&2dh.)ka+abbpa$ab<)^na$^na+bg^na$bg^n
   a+.+%a$.+%a+mzvfmzywmzabvfmzabywf;vff;ywf;abvff;abywf;.a)a$f;.a)a+p$vfp$ywp$abvfp$abywh,vfh,ywh,abvfh,abywh,.a)a$h,
   .a)a+cta$ct2.i^ct0FISHEYE 0n%a$hmdzhmynbgn&0BULLSEYE a+hmbo.v%di:^c,ktuz,;u$.aj$e.sfa*bcktbobhkthmt$wz1<lc,a=t$<ldi
   a=t$<l.sf.pwp;co.v(0oy.v(gc.v(ila=hmdia=boa+oycyk,&ic,amcyd*vfwzo|.v%c,amdh:^oydhkt.v<bgBISECTING d:1mzcy*>mzcy.)n;t
   bo.v<.)u1yn.)uilamcycomautvfbl<)blbpa$blab<)blabk(oyywthaa>e0.at0.as0.q.0COMET a+gka$oa.f&0THUNDERSTORM 0th0.$xNODE
   0.ojNODE 0CONJUNCTION 0.mza+$ta$$t0.a<j.zapa3X 0yy.asaa,tDROPS 0):.&=a$.joa+.jo0SHAMROCK o=lm.rak)wza+aml|col|a$aml|
   1ayl|col|1aul|0.|$0CAUTION akRADIOACTIVE akBIOHAZARD ak.&z0ANKH 0ORTHODOX ohmpj:0ewa(LORRAINE 2JERUSALEM 0gkai=(0
   FARSI axADI SHAKTI 0.f)aiSICKLE 0.mwaxwkpt0TRIGRAM j).en2LAKE 2ts2.m&2(gpr2$d2n*0.dfa(DHARMA a$.|^a^a+p*a^a$thaa>e0
   v$irh^0.uhh^0.&w0>&akn*0$cakJUPITER 0SATURN 0.+(..u0PLUTO 0ARIES 0TAURUS 0GEMINI 0CANCER 0LEO 0VIRGO 0LIBRA 0
   SCORPIUS 0SAGITTARIUS 0CAPRICORN 0AQUARIUS 0PISCES a$.wla+.wl1SPADE wxa$k)wx1ctwxa+.kiwxa$SPADE wxa+k)wx1ctwxa$.kiwx
   0):SPRINGS 0irn>0mtn>0.$wmt.ax1)(.ax0MUSIC ^eat.zsat^dakge.gtohgq.gtoh.)o.+)ooTYPE-1 =tTYPE-2 =t.$<=tTYPE-4 =tTYPE-5
   =tTYPE-6 =tTYPE-7 =tGENERIC MATERIALS a+.)oRECYCLED .gjaxPARTIALLY-RECYCLED .gjaxPERMANENT .gjak.plaxDIE FACE-1 ~5
   a$bodoapd$eva+ynaqa%apd$aqev0=zj)pt2wk0.>!.+.pt2LESSER wk3pt2.+.wka$pza+pz0.f)aiPICK 0.y|0n,SWORDS ..zAESCULAPIUS 0
   SCALES 0.&&0.ay0GEAR ..zHERMES 0ATOM axFLEUR-DE-LIS 0,<aqoadfLINES CONVERGING ap3am0WARNING akc+VOLTAGE ak.gu>&at$c
   akINTERLOCKED >&ai$cak$cai>&atdpaj3ai$cai>&akbg$cdpakb<$cdpakblaql%a*boi><lMARRIAGE axDIVORCE axUNMARRIED .yaax
   COFFIN 0FUNERAL URN 0NEUTER 0CERES 0PALLAS 0JUNO 0VESTA 0CHIRON a+h^LILITH 0SEXTILE 0SEMISEXTILE 0QUINCUNX 0
   SESQUIQUADRATE 0SOCCER sqBASEBALL *jwva$.)pa+.)p0.q..e:.oa0th.^(0,ta+.q.0.m&.atai,tmdaq.jo<>.joa$ctcpk(..*DISABLED
   !>OPHIUCHUS 0PICK 0CAR SLIDING 0.ddaaaqohdj..*CHAINS .|%0giONE-WAY .:=a+.)qa$.)qa+am.)ra$am.)r0DRIVE SLOW akbwaqp$cy
   bcdkENTRY *jyy%+cpaqbocpa*bpa+.vyRESTRICTED amENTRY-1 ~1 0ASTRONOMICAL oo.+(c(bo&mkny;.rb0RIGHT-HANDED .)s
   LEFT-HANDED .)scr.rba+ewc).kh0SHINTO SHRINE 0.w*0.ot0HISTORIC SITE 0GEAR .e:HUB szHANDLES 0)gooLIGHTHOUSE 0$d0.asc)
   .)).&f0pzcpHOLE 0FERRY 0SAILBOAT o|b^>+0SKIER 0zlSKATE .i&sq.ol0+..orax.&^GRAVEYARD axFUEL PUMP 0);&(a$pzaab<bda*
   STRIPE a+.pk.amil.)ta+.am0di.)ta$.am1bwpacn$t.n^akTAPE DRIVE 0,z0<vh(.ph1yl.&hyl.&gyloy.ga0.gailap.gaa$NIB a+NIB 0pa
   cnbwpacn=eX c(=eX 0.a<X c(.a<X 0,<s|ewc(<m%,ewc(%,ewyaohxtqnoh,<qnohMALTESE ohgka(DAVID 0b^^;j(1.rcj(c(b^.rckwb^
   CLUB-SPOKED j(a+b^mygka$b^myoaSPARKLES 0.m(,<aqoadjaqoa%,a*gka+f|aqoa,<a*ym,<a*oa*nxtymkw%,kweg.a%j(1uugk2*necuv.)v
   ym.)voatpuv>tmykw^;kw%,^;j(c(^;kwec.,aa*aiaq.g)a+.g)a$.g)0eg.,a,<a*.g)o^%,egmyym^;*mkw.rd0TIGHT TRIFOLIATE .rdc(.&!
   .rd0.,bc(.,b0.rckw.)wj(c(.)wkwewcnxthm.cqewcnoy.,caqbpilap.,caqk(oyxtbpilapxt<)oxg&a$oxm(;:g&a+ctkhaqX c(;:axba%|bl
   fpc(fp1byb|<k2<koeb|<k2dy$)m(dcby<kf$dy$)yrrv$m.bcajg&c(;:m(k);:m(a*k.lmbwa*k)%;.rak.lm.rak)%;bl&qg&:$m(.g:&qg&d*fi
   .)yg&c(h,e|$)m(f;e|$).)yyrbaamk|g&cok|yrblamiig&coiiyr.$j*i.)z1djf!.)z1*if!xq5bb.:c4dwghc(.&*bkg,aratkhat$xat.)$
   DRAFTING n:=bROUND-TIPPED iecm=bcmien;cm=bn;cmiea*ie.)xbkd<1BOTTOM-LIGHTED bkd<a+bkd<c(a*rvb+aibka!3cxaiieSQUAT a*=b
   CONCAVE-POINTED a*ie.pgaqie.pfaqie.uqie.ut=bdi.waaqbkg,c,.wbwwdi.wbihiy0wwc,.wbdjbwaqieWHITE-FEATHERED ie.,e.)$bw.,e
   grm%bkm%k*biTEARDROP-BARBED =bTEARDROP-SHANKED ie.,f=b.,fieOPEN-OUTLINED iealihiy%dDIMENSIONAL e|a$cy.i>abaqma.re0be
   iz1jibc.)&bh.)&0bfdoix0us.,giz0ji.,gn<0fpaal=0^gnudh0a;$x0^g%+*jyv2bfa$ctaa$y;*ai*>*,.bkcx0oygmdoilamgmdobc.wcbh.wc0
   dr.wc;tayfv1*zbcd>al,,3fv1.q!0a;apfvgcfvslfv+dy;n%.wdb<RULE a$CONCAVE-SIDED ct|xb*,&4bk,&1bpaab*,&3bk,&0^gamaqobcoaq
   obgcl:col:gc!eco!egcaqk|coaqk|gc.g:fico.g:figarqi:rqbikg.)*bin!.)*biapbz.),.r)amapg,b*alg,bkalg,amapalg,b*nj1bknj1b*
   alnj1bkala!nhr(.g>biBRAILLE .z:BLANK 2DOTS-1 b$DOTS-12 2DOTS-3 2DOTS-13 2DOTS-23 2DOTS-123 2DOTS-4 2DOTS-14 2DOTS-24
   2DOTS-124 2DOTS-34 2DOTS-134 2DOTS-234 2DOTS-1234 2DOTS-5 2DOTS-15 2DOTS-25 2DOTS-125 2DOTS-35 2DOTS-135 2DOTS-235 2
   DOTS-1235 2DOTS-45 2DOTS-145 2DOTS-245 2DOTS-1245 2DOTS-345 2DOTS-1345 2DOTS-2345 2DOTS-12345 2DOTS-6 2DOTS-16 2
   DOTS-26 2DOTS-126 2DOTS-36 2DOTS-136 2DOTS-236 2DOTS-1236 2DOTS-46 2DOTS-146 2DOTS-246 2DOTS-1246 2DOTS-346 2
   DOTS-1346 2DOTS-2346 2DOTS-12346 2DOTS-56 2DOTS-156 2DOTS-256 2DOTS-1256 2DOTS-356 2DOTS-1356 2DOTS-2356 2DOTS-12356
   2DOTS-456 2DOTS-1456 2DOTS-2456 2DOTS-12456 2DOTS-3456 2DOTS-13456 2DOTS-23456 2DOTS-123456 2DOTS-7 2DOTS-17 2
   DOTS-27 2DOTS-127 2DOTS-37 2DOTS-137 2DOTS-237 2DOTS-1237 2DOTS-47 2DOTS-147 2DOTS-247 2DOTS-1247 2DOTS-347 2
   DOTS-1347 2DOTS-2347 2DOTS-12347 2DOTS-57 2DOTS-157 2DOTS-257 2DOTS-1257 2DOTS-357 2DOTS-1357 2DOTS-2357 2DOTS-12357
   2DOTS-457 2DOTS-1457 2DOTS-2457 2DOTS-12457 2DOTS-3457 2DOTS-13457 2DOTS-23457 2DOTS-123457 2DOTS-67 2DOTS-167 2
   DOTS-267 2DOTS-1267 2DOTS-367 2DOTS-1367 2DOTS-2367 2DOTS-12367 2DOTS-467 2DOTS-1467 2DOTS-2467 2DOTS-12467 2
   DOTS-3467 2DOTS-13467 2DOTS-23467 2DOTS-123467 2DOTS-567 2DOTS-1567 2DOTS-2567 2DOTS-12567 2DOTS-3567 2DOTS-13567 2
   DOTS-23567 2DOTS-123567 2DOTS-4567 2DOTS-14567 2DOTS-24567 2DOTS-124567 2DOTS-34567 2DOTS-134567 2DOTS-234567 2
   DOTS-1234567 2DOTS-8 2DOTS-18 2DOTS-28 2DOTS-128 2DOTS-38 2DOTS-138 2DOTS-238 2DOTS-1238 2DOTS-48 2DOTS-148 2
   DOTS-248 2DOTS-1248 2DOTS-348 2DOTS-1348 2DOTS-2348 2DOTS-12348 2DOTS-58 2DOTS-158 2DOTS-258 2DOTS-1258 2DOTS-358 2
   DOTS-1358 2DOTS-2358 2DOTS-12358 2DOTS-458 2DOTS-1458 2DOTS-2458 2DOTS-12458 2DOTS-3458 2DOTS-13458 2DOTS-23458 2
   DOTS-123458 2DOTS-68 2DOTS-168 2DOTS-268 2DOTS-1268 2DOTS-368 2DOTS-1368 2DOTS-2368 2DOTS-12368 2DOTS-468 2DOTS-1468
   2DOTS-2468 2DOTS-12468 2DOTS-3468 2DOTS-13468 2DOTS-23468 2DOTS-123468 2DOTS-568 2DOTS-1568 2DOTS-2568 2DOTS-12568 2
   DOTS-3568 2DOTS-13568 2DOTS-23568 2DOTS-123568 2DOTS-4568 2DOTS-14568 2DOTS-24568 2DOTS-124568 2DOTS-34568 2
   DOTS-134568 2DOTS-234568 2DOTS-1234568 2DOTS-78 2DOTS-178 2DOTS-278 2DOTS-1278 2DOTS-378 2DOTS-1378 2DOTS-2378 2
   DOTS-12378 2DOTS-478 2DOTS-1478 2DOTS-2478 2DOTS-12478 2DOTS-3478 2DOTS-13478 2DOTS-23478 2DOTS-123478 2DOTS-578 2
   DOTS-1578 2DOTS-2578 2DOTS-12578 2DOTS-3578 2DOTS-13578 2DOTS-23578 2DOTS-123578 2DOTS-4578 2DOTS-14578 2DOTS-24578
   2DOTS-124578 2DOTS-34578 2DOTS-134578 2DOTS-234578 2DOTS-1234578 2DOTS-678 2DOTS-1678 2DOTS-2678 2DOTS-12678 2
   DOTS-3678 2DOTS-13678 2DOTS-23678 2DOTS-123678 2DOTS-4678 2DOTS-14678 2DOTS-24678 2DOTS-124678 2DOTS-34678 2
   DOTS-134678 2DOTS-234678 2DOTS-1234678 2DOTS-5678 2DOTS-15678 2DOTS-25678 2DOTS-125678 2DOTS-35678 2DOTS-135678 2
   DOTS-235678 2DOTS-1235678 2DOTS-45678 2DOTS-145678 2DOTS-245678 2DOTS-1245678 2DOTS-345678 2DOTS-1345678 2
   DOTS-2345678 2DOTS-12345678 c^,=bzm<4&uc%<!m<c^<!m<%w<!m<c^,=njc%alnjc^alnju^l=<nl=1dai:dad+%&e<%&d+;de<;dg,,=.):$m
   ga*)f)*)ngc..)=&uc%.g.c^.g.c%al.g.c^al.g.c%.)+c^.)+c%njTO a*ctc^njTO a*ct0gfaigr%aaiyjsrbzbx1gqbzbx0grbzbx1gebzbx0gf
   a!aik*%aa!aigr<oa!aiyjsra!aigfbinudhlp%+0%+lpnudh0gr.);k*a!lpgrbi%+lpk*binudhlpgrbik*a!lpgfsr.);.)<ap0a!g*bk.uucx5b+
   2b+.uub*5bk0RIGHT-SIDE p;n!biLEFT-SIDE .weex.wegl.weexp;n!bzkh2kgbzar0oy.rfn!g,am.rfkgbikgdkbobin!dkboe<i,b%b*d+i,b%
   ieb%bki,b*e<bzara,q*ara,c^=dX %w=dabboga,=a!nhabbobcfnayapfnaufmk$.)>.)^k,aufnapfmbcfnay.)>aufnapfmbcfnauapfnaufmsl
   fnam.)^.c!*(.c%*(ga|h*(f)|h*(c%foau*(c^foau*(gafo$+ckf)fo$+ck.c!ni.c%niga|hnif)|hnic%foaunic^foaunigafoamnif)foamni
   .c!*%foauga.)|.c%%:foauf).)!.c!%:foay4au%:foau.c%*%foay4au*%foau.c!.)%.c%.)%ga.)!f).)|bh<!tqhy0q$aoievg%:d+i,vgc^i,
   vg3vedn*%d+=ddnijaoieiz%:d+=diz0ji*%biamtzc.bhtzc.sltzc.0autzc.%<fp.p=0%zSPOT 2.qqh+!fiibhaqii!ffibhaqfi0%zam^+fhd*
   ^+fhk,.)(d*.)(*p*!*u*!*p.jpexgm*u.jpglgm*p.jpglgm*u.jpexgmbcl:dobhl:dobcp;dnsop;c>fhf&amp;c>fhcop;dnfhbca*k|bha*k|%!
   FENCE x%,pd:0.bie|.bkambhe|x|aak(.biape|*>e|aaS ix0jg.(*e|.bkamggmde|o=|se|*!o=e|*!0+qe|.bk!,0.bie|aabe.anENDING cp
   a!g*ayd>9ayg<9aud>9aug<9apaiay9amaiay9apaiau9amaiauo=,y>p0,y>p<%&abomeapi,3ami,0yn&.o^fp1$o1us1.re0bo.wd&.aiexa=.wd
   fpszSUPERIMPOSED X o^ANTICLOCKWISE-ROTATED $xakay=dhmdjaqwz1wz1.wmbok&bo.v,d(b<.qe.v,*jnudhkb1%+kb1j(i>l%k(bb.g(.ha0
   cye&2i$0S cpmacyaa.rgh=glbhcyaoamcybccy,>%|fp,>apma.q%.wfa+.q%0az.wfa$.g%a+.g%bc.jrbh.jrbcal.jrbhal.jr0INCOMPLETE ^&
   0>:a<^&0^&.+;aa%|DOUBLE-ENDED .q!o|aaCONTOURED OUTLINE 0INCREASES AS 0SHUFFLE |vq$aikj$ol^a)y;.g|TO aikj$o0GLEICH
   STARK 0THERMODYNAMIC 0p$cy.)na+ctaaaug,n%a$ynaubia*ynaubiERROR-BARRED aq*la*bp1aqct<>ct1aql%a*hmRULE-DELAYED 0usion<
   <%0usaal=0BIG n<1usf&ar%<ar0h,rvl:0f;rvl:0.ks0MINY 0^*dja%in2arin2azin1kiindo4ar1bpjhin2kiiobbyvin2bfio^*azioMODULO
   bb>l0.g=aaxwrqw&ioFINITE .mgxww&hpb=1AVERAGE aakb0CIRCULATION .+v0kg.,h0d:.,haa.*j.).3.rf.).2cwINCLUDING f,.f<0w&.,i
   A n:ioQUATERNION w&iow&aab*bzbx2azi^jh2ki2,:2i$0JOIN ;tamcyio%zSCHEMA .q(3PIPING 3PROJECTION 0ytk&bome&pmea)meqp3a)
   =r.gsbb3a*makhajaadymeqp3%*ev3nuev0yt..ahmVECTOR bfew|v=fe&3i$0.c^aagldk0SMASH |v=f..ahmdj=flyor0=fcpalhmdj$xakytcp
   makhajcpma=fcpma..bRIGHTHAND ..b%zRELATIONAL .q(0AMALGAMATION bf.+*0jh*>kiaakhi^,:0jh<%2yv0kiaa.jl1aojh0jhaoki0kiao
   ckaojh0jhaockaoki0ki..hki0jh..hjh0..i1jhaa.rgf&bpjh2ki0..iaiSMASH |vyve&1bfe&f&yv2bf*tINTERSECTING yv3bf0SLOPING d;
   bf2ai0.jl.rhyv1aio&$m1bfo&$m1aiaab<ey1bfaab<ey1aihp,:3i$jni$o;+s*!0.jlhp,:4i$0%zDOMAIN .,j2RANGE .,j0q$g;0.g|e&%<&.
   hpm<4dam<0vge&3nuev0,^kh,^0CONGRUENT e&0kcaakw.c<lyor0.bjjjk%q$aoarakyt%=q$aovgf&h+jj*t..j%d..j0q$l;aoaiknu;|faa*oao
   jt+dixij+dixjtaaoxaoijaaoxaojtbfkjjlc>bfkjjldn..cij..c..d..k..dap..kamjtbf.hbijbf.hbjtai.jtc>ai.jtdnaicw.hbijaicw.hb
   jtao.jv..e.jv..f,^bfjjijao,^bfjjjtao,^..e,^..fc>ao.jvijaodnao.jvjtaokjjjaoc>.j&ijaokjjjaodn.j&0kj.c|4c>4dndoix4c>do
   ix0.ju.c|4c>1kj.c|5c>0,^bfdn2c>1aodnaokci^c>%=al..g2dn*!ij.rhdn1,>dnjt.j*ij.j*jt.j*.j&ij.j*.j&0..l0..n0..lk%..nk%q$
   aaBUMPY y;n(ao.jskcakn)ao.jskcakn(ao.jtn)ao.jtn(%=n)%=n(aosdn)aosdn(aoven)aoven(aocwven)aocwvealn(1n)0iz*>ji*>izaayt
   u;jiaaytu;izaa=fu;jiaa=fu;y,bfjke&0*|bfjke&0y,%=*|%=y,aoa)io*|aoa)ioy,aove*|aovey,aosd*|aosdbpambej.incobej.iodkiz1
   ji1izbf|tjik%izaoji0jiaoiz0izaoiz0jiaoji1,>iz2ai.g(,beyaaiz0*,.bkb+0.+<aa(pex0TRANSVERSAL jh0FORKING 0NONFORKING 0b%
   amfv1*z.jf0.reaaS 0fpda.(=am,,0fpalam,,f&fpalam,,0a;eynham.g^a(albg0b%*z<%.jf*!3aob%*zf&*z.jf1b=cwakb(alb=cwakvc.q=
   aab(NEGATION kb0k:+dfdu;*z+du;$oaal=2a)iodafp..m|xl=1h+in1..g0.jukjdnbfjk2c>k%dan<..m;tdafpinf&n<ina$%|^*aq%|k*aqsr
   aq<oaqsraq<waqd+a*hva*i:a*bik*a*sra*<oa*sra*<wa*.c:a*e<bzn+b+4cxq*n+b+4cxo|aaex:^gl:^|edh:^utdhkt0ct.v%ex:^glkt%!<)
   d;bpa$d;<).b*bpa$.b*<).bla$.bl1.ria+.rivna*.ria+d;l%blcta$blcta+bln%a$bln%a+abct2n%a$abn%a+b<.hca$b<.hca+bg.hca$bg
   .hcbcbzabhmdfb*$ubcbz.),.g>d+,=bzm<4&u3nhr(.):$m3c..)=&u1=dX 0.)<am0q$*%biryvg*%d+i,ry.c<c^=dc>3jic%rqe<rqbiryvg%:e<
   i,ryvevg*%d+i,.c<3ryvgc^i,ryvgf)cm,pbib%kjgdg,.wgbiaqblgka+abgka$abgka+f;.bla$f;.blc(d;l%.n=aa.n=ix1ynboix21djyykjgd
   bz^khy0.wgbz^kc.0kjgdbzb<c.0.wgbzb<c.0..o0b%..oc%cmhvcme<cmi:cm<wcm.c:cmbigfcm%acm<ocmsrcmd+cmn;hvcmn;e<cmn;i:cmn;bi
   n!cm:(bikgcm:(d+*.ga*.c^*.f)*.U+2B76 0gf*.1gq*.0gr*.1ge*..bqall=.cvall=.c$all=.c+all=vnz^wvx%z^wvc%cma!a<bkcmhvcm.jm
   b+cme<cma!a<b*cmi:cm.jmcxcmd+cm**gacm**c^cm**f)cm**c%.whhva*dj%f.whi:.whbikgcmap(;m%gl(;m%am(;m%ex(;bi.esamco0.+!am
   co0b^gm$u.z.kgc^a*a!U+2B97 0oo.qqA ELECTRONICS 0.)xb*sgRIGHT-LIGHTED cxsg.,dbksgLEFT-LIGHTED b+p^a+b*sgcxsgbksgb+p^
   .c+..p.cv..p.bqa;n+cx.c$a;n+cx.bqa;n+b+.c$a;n+b+a+rvb+ai.v;m%cxai.v;m%b*aicxm%bkaicxm%b*aib+m%bkaib+bi.f;a!au.i)oj
   .i)k,ayd*ayk,aud*augaaqnjaa&.sld<.((.rhaq.ha2aia*.ha<>.ha0.ukbaX o^X !:X a+bp$y1ct$ymda*.blvna*.,ka+.,k1blmzcy$y2p$
   cy$y2h,cy$y2f;cy$y..ucbbbo!kthmglkthm..q0lm..qa$..r0lmaq..ro|.fwzs0UNCERTAINTY akGROUP cnPLUTO cbbbd)d.eb0TRANSPLUTO
   0PROSERPINA 0ASTRAEA 0HYGIEA 0PHOLUS 0NESSUS a$h^SELENA a+ctc)oh.q^bah^ARTA 0CUPIDO 0HADES 0ZEUS 0KRONOS 0APOLLON 0
   ADMETOS 0VULCANUS 0POSEIDON bcktgkbhktoagk.wfc%.j+ga.j+c^.j+f).j+0ERIS cbavd(0SEDNA 0RUSSIAN .*=awVIGINTILE 3NOVILE
   3QUINTILE 3BINOVILE 3SENTAGON 3TREDECILE 0q$aa^&u;UNITED axSEPARATED ax.guaxPASSED axb(ap|sHELLSCHREIBER PAUSE ax.$e
   ag..,ae..,!qL hpckaeL hpckahL o*3P ncfrc.aeA dpks.icH jzH o$K jzK o$Z jzZ o$fuvsf+b|gofuaeV aaapbxahW q+W f+V jvaha=
   H aea=H 3TAILLESS mv3kuNOTCH gwfr&oeodca.ixhrb|E 1.jeJ k=afV !q.!+c.0swagALFA aeALFA ahVIDA aeVIDA ahn^aen^ahDALDA
   aeDALDA ahEIE aeEIE ahSOU aeSOU ah.dkae.dkahHATE aeHATE ah.,lae.,lahIAUDA aeIAUDA ah.hdae.hdahLAULA aeLAULA ahMI ae
   MI ahNI aeNI .!%x.!pPI aePI ahRO aeRO ah.rjae.rjahv&aev&ah>fae>fahr$aer$ahKHI aeKHI ah.%cOOU aeOOU .jxeu.j,eus$f:sx
   f:.j:EIE .jzEIE .jx.hd.j,.hd.jxNI .j,NI .j:NI .jzNI s$OOU sxOOU ah.!<ahn,$$aen,$$s$$$sx$$s$i!sxi!ah.,m^vae.,m^v.jx^w
   .j,^ws$^wsx^ws$b&sxb&ah..sae..ss$HEI sxHEI s$,csx,cs$^xsx^xs$DJA sxDJA s$,$sx,$.j=,$.j>,$.j=NGI .j>NGI .j=wd.j>wd.j=
   WAU .j>WAU sn^bvlq(PI q(STAUROS 2v&q(KHI q(,$.rj.j:$$.jz$$.j:^x.jz^x|>NI bmSPIRITUS ASPER 3LENIS ah.,n^vae.,n^v
   U+2CF9 1.j<dt3.omox3INDIRECT ox3..t1.b:1duMORPHOLOGICAL (n0.bgad.(hU+2D27 3>>U+2D2D 3>aU+2D30 0TIFINAGH ach)YAB 2
   YABH 2YAG 2YAGHH ..>YAJ 2YAJ 2YAD 2YADH 2YADD 2YADDH 2YEY 2YAF 2YAK =yYAK 2YAKHH 2YAH ..>YAH =yYAH 2YAHH 2.b.YAKH =y
   YAKH 2YAQ =yYAQ %).rk2AHAGGAR .rk=y.rk2YAL 2YAM 2YAN =yYAGN 3pt2YAP 2&*YAR 2YARR 2.rl=y.rl2AYER .rl2YAS 2YASS 2YASH
   2v*2YATH 2YACH 2YATT 2YAV 2YAW 2YAY 2YAZ 2TAWELLEMET YAZ 2YAZZ |w2j%U+2D6F ;%LABIALIZATION b>j,a&U+2D7F 1nd+y0.iiLOA
   2MOA 2ROA 2SOA 2SHOA 2BOA 2TOA 2COA 2NOA 2NYOA 2hn)v2ZOA 2DOA 2DDOA 2JOA 2THOA 2CHOA 2PHOA 2POA 2GGWA 2GGWI 2GGWEE 2
   GGWE U+2DA0 2li2SSU .uxSSAA 2SSEE 2SSE 2SSO U+2DA8 2CCA 2CCU 2CCI 2CCAA 2CCEE 2CCE 2CCO U+2DB0 .taZZU 2ZZI 2ZZAA 2
   ZZEE 2ZZE 2ZZO U+2DB8 2CCHA 2CCHU 2CCHI 2CCHAA 2CCHEE 2.m!2CCHO U+2DC0 2QYA 2QYU 2QYI 2QYAA 2QYEE 2QYE 2QYO U+2DC8 2
   KYA 2KYU 2KYI 2KYAA 2.d>2KYE 2KYO U+2DD0 2XYA 2XYU 2XYI 2XYAA 2XYEE 2XYE 2XYO U+2DD8 2GYA 2GYU 2GYI 2GYAA 2GYEE 2GYE
   2GYO U+2DE0 oumwac.::mo3ZE xz.:;.r>jo.:<)z3ES-TE ;jml3.m|3.tk3v*3fs3>=c:x)3&c3>=&cbhe|^<,*2dz^<,*bc^<so^<fhbcdz^<so
   dz^<fh0h(.,o,*1dz.,o,*%!.rm,*bc.rmso.rmfh0h(bpbc..vso..vfh0EDITORIAL CORONIS 0.,p0..wo=..w0HYPODIASTOLE %!OBELOS f)
   .,qga.,q%!f;e|f&+qpq0cr.a>0.al.q)0pqaabq0a)vkaobc..xso..xfh0a)e&3a,bcfp.jibhfp.jio!..yfh+c..yfhbcwlU sowlU fhbcalfi
   bhalfi0.h+0av.;j*jb^:r0dga%cnb(%gbg%ua.n:0lcj,bda%mddy0h(a%1dymdr&0^rr.GUARD d*GUARD md^ro!a=ivakTWO-EM ey0THREE-EM
   ey0STENOGRAPHIC dtx%ecev0.jqk:0CAPITULUM f&pqo=dyf&LOW-REVERSED-9 xveyr..prf&.o.cncrdc>^|x>^y;dc>^2dof&STACKED dy%!
   n<%<^r0.,rdy0PARAGRAPHUS cnPUNCTUS ELEVATUS cnCORNISH ..t0ewPATTY aaap.,s3am.,s0.(vafrp0.,r:%ox*pdp*udp*phpb=*uhpb=
   o!a=&qd*fi+ca=&qd*fi0+qpqU+2E80 0CJK .et)$2.wp+o.wi2py2j.2.op2.f,vy..^dqvyLAME avt:2.fv2.pn2SNOUT vyk)vygn2RAP
   U+2E9B 2CHOKE 2th2h^2DEATH 2.&:2CIVILIAN 2prvyts2PAW vy.he..|..!2JADE 2..%wq2.pbvy.wk.rnmi.rn2NET avt:2MESH ..(RAM 2
   EWE 2nt2.n+vy.f*2..)GRASS .wi2.f=2.ox2geavd$mi+|2.hec<2c<mi,x3k>2.ghmiCART 2.heWALK .wqvyCITY mi.dc2a;avd$mia;3...vy
   ,t2,wmi..$3mx3>,3FLY 2EAT .wimiEAT 2hymi$s2.f+2.oymitz3.f>3ti2.he.ka3.a*mi.ov.j).gxmi.gx.j).gimi.gi.j)$pmi$p2.a&.j)
   .a&mi.a&U+2F00 0KANGXI .etav2d:2vtkb2+o2bxd(2LID 2mk2LEGS 2ENTER ehk$j.2.l:2zl2.op2bej.2.f,2.my2WRAP 2.pjd*bej.2
   HIDING .roi*2..^2.wpPRIVATE 2AGAIN 2lr2.ro2n*2SCHOLAR 2pp3SLOWLY 2EVENING 2BIG 2zb2.kg2ROOF 2INCH dq2LAME 2CORPSE 2
   SPROUT 2$d2RIVER 2.mx2ONESELF .|.2DRY %>.pn2dz.wpa;STRIDE d(wt2SHOOT 2=*2SNOUT 2BRISTLE 2.l(2k)2HALBERD 2DOOR 2gn2
   .q)2RAP 2h!2DIPPER 2AXE 2bp2cw2th2SAY 2h^2vz2LACK 2ds2DEATH 2WEAPON =pcw2COMPARE 2FUR 2CLAN 2STEAM 2pr2ts2CLAW 2.$t
   f$X 2..|SLICE 2FANG 2..!2PROFOUND 2JADE 2MELON 2.n%2SWEET 2LIFE 2USE 2FIELD 2..%SICKNESS 2dz.ol2aq2SKIN 2f^2wq2SPEAR
   2m%.o$2.pb2TRACK 2GRAIN 2CAVE 2STAND 2.wk.av2.rn2JAR 2NET ..(.gn2nt2ai2PLOW 2=<2.n+2.f*2MINISTER 2SELF 2ARRIVE 2..)
   ,k2OPPOSE 2BOAT 2STOPPING 2COLOR 2GRASS 2.f=2INSECT 2BLOOD .wq.ro2.ox2ge2+|2c<2,x2VALLEY 2BEAN 2PIG 2.&;2k>2n|2RUN 2
   .gh2BODY 2CART 2BITTER 2MORNING .wq2CITY 2.db2DISTINGUISH 2VILLAGE 2.dc2a;2...2SLAVE %>.$h.f>2,t2,w2WRONG 2a^2.,t2
   ..$2LEEK 2rw2mx2(gFLY 2EAT 2hy2FRAGRANT 2$s2.f+2.be2,r2FIGHT 2SACRIFICIAL .db2.yh2.oy2tz2.f>2ti2.j.2.ka2HEMP 2.a*2
   MILLET 2u$EMBROIDERY 2.ov2TRIPOD 2.ai2RAT 2^l2.gx2.gi2$p2.a&2FLUTE U+2FF0 |bDESCRIPTION $b$+ap3aoTO =r$+bdd>3aoTO bd
   ai=rdr.,u3.,unh;ua,5am5c,am6w;diam3.n("

end Covenant.Text
