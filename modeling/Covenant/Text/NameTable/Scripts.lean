namespace Covenant.Text

def scriptNames : String :=
  "U+0020 0o(n$cnxvdwak.afak.nkak,h0$kbcfibhfi0kwarakdy0.nj0!cn<0d!.!t0h+0r&jtakkcakc>ak%g.fdh=!q:n*p0us*u0&p0x&0osyb:n
   bcii0k:bhii0a)U+00A0 0.nmo(crn$cnCENT ak.fgak.a+ak)iak>!ck0ivakbq0.&(ak.&).&.zs0h,ale|xvcwakpspq0REGISTERED akcq0.fo
   akPLUS-MINUS ak=^bb1df0st0MICRO ak.!ubd;*t&0=^av0MASCULINE .&.zs0f;ale|xv.pp.:*0cr%gqo.(o=eakqo.!wae^dS 3.(o$xak^!
   .!ww:yokqcq<zcq.!vlv<zlvahC *qC *vC *rC *wC hxC ikC l.C suD l.D suD hsD hwkucqu.cq%jezu.ezahE hxE ikkulvu.lvahE l.E
   suG *rG *wycezaeycezahG hxG ikG *yG <$H *rH *wH hsH hwkxa);ca).!$ez;cezahkxlv;clvahI hxmqI s*dmIJ i>dmIJ ahJ *rJ *wK
   *yK *x3KRA ahsmmbsm$;L *yL <$L l.L suL o&a%aeL o&a%ahL hsL hwN *qN *vN *yN <$N l.N l)4PRECEDED ,b$kahrkaerkepcqgucq
   epezguezepalmbeoaljgs*dmcvi>dmcvahfrmbfr$;frt&aefrt&ahR l.R suupmbup$;S *rS *wS *yS <$S l.S suT *yT <$T l.T suT hsT
   dphla)i+a).!xhlezi+ezhla.aoi+a.ao.!yaljghllvi+lvahW *rW *wY *rY *wY aabq3Z *qZ *vZ hxZ ikZ l.Z l)3a;S 3B hwB m*5.go
   aeB aa.goahb!ecaeb!ecahbee!C q+C ys.pqD p>m*5.goaeD aa.gogwri!lczt*3&>F q+F ysG f+n^aeHV ahlt3I dp3K q+K f+smck3
   LAMBDA hwb|M g=r.bxae.!&epbda)5c<guc<ahOI aeOI ahP q+P m*anYR ahb!bbaeb!bbahi!anb(i!iyaeT aag%bxahT q+T ysT o:hhc<i+
   c<ahtx3V f+Y q+Y ysZ hsZ hwwr4b(aewrb(4ovanbbhwb!dgaeb!dgancrhodp2.e&2.;cl+zpahzol)p>aaadZ l.zosuLJ m$aaadJ aeLJ ah
   NJ g=aaadJ aeNJ ahkql(<zl(ahI l.I l)epl(gul(hll(i+l(%hqdi+bqqd%hmchhbq%k%hail(i+bqail(%hi=i+bqi=gwE ahkqbqqd<zbq=aA
   e&qdaeA e&=adxaacqaedxaacqahG hsG hwG l.G suK l.K l)eplvgulveplvqdgulv=awrl.wrl)3J suzop>aaadZ aezoahycmbyc$;HWAIR 3
   .e&g=aai<aeN aai<ahkqa.aomckqa.ao*^dx*qdx*vO dpmcO &m$;kqq,<zq,ahkqj$<zj$%jq,u.q,%jj$u.j$ahkxq,;cq,ahkxj$;cj$epq,gu
   q,epj$guj$ahfrq,aefrq,ahfrj$aefrj$hlq,i+q,hlj$i+j$ahupdyjmupdykzT aadyjmT aadykzYOGH aeYOGH ahH l.H su.!&aeD jvahz(
   aez(ahZ q+Z ysA hxA ikkut&u.t&epbqqdgubqqdepa)qdgua)=aO hxO ikO e&qdaeO e&=ayfcqaeyfcqm$jvg=jvksjv3mqJ 3DB &$QP i)ah
   A dpxkhsC hwsmckks.id.!+c.ahhoaehoahB ncU ckgw:kE hsE hwJ hsJ hwabQ m*c.aeQ m*c.ahR hsR hwY hsY dpgwc:fugwfu3B f+be
   e!C jvp>ov5f*b(czt*4f+&>b(beE 6f+dkb(&>mqJ dp:gf+h!G hrG aen^3RAMS c<gwH xlf+(tf+I nclthrI aeL o*5rm5l,.kogwM l^|*vs
   f+N r.bx5;ohrN aetuO hrcvaedkh*3mvgwR l^|*6f*fr|*5c.5+t=ofr+thrt)crR aeS f+i!3mqJ &mf*SQUAT b(i!3i!jvgwT kso:U ck$.3
   V f+b|t.Y hrY aeZ ;p5ju3wr4jvanho2.*a$aFRICATIVE 2crho2.n|C 2.kpzpdqafB aedkbeE hrG m*4H aeJ !vgwK hrL aeQ m*anhodp
   <.hohszo&$.dn&$zoi)jv3TS &$.do&$.:).kn&$.:.an.kp.*b2BIDENTAL .*b!tH aa+t7aic.k=abH 4f+J 3r%b|R 5f+afcrr%W w:2trf$tr2
   b|dy2$k<.dyd*vak,va2ho<.hok,d<d*d<ojd<k$d<2&p0l(k=k:2cq2st2oss=k:3cq3os3st2iuh+2a=iuh+2$yapva3uma.ojfvk$fv2ari^khak
   ez0a%y;a.y;lvo;a)f&stk=RHOTIC bx2ewordqn^$,S 3X =oho2.exr)c+r)+!r)dcr).eyr)wk.meb!b;pt.meb!b;.xr2UNASPIRATED f$$ks=
   aud<ggd<3amd<uzd<3a.2bdosjnos4sts=a)2h(h+2z!c++kpnc++kz!dc+kpndc+kSHELF 2beSHELF s=ambinsos1st1&p1a)1cq1$j1ez1a%b:bq
   1bxb:a.b:alst1l(1k:b:alk:bmos1j|1j$1b|dyb:dyb:b(dyb:dyaoap1osa:sta:amfva:apfva:ame|b:c<gcvaa:ayfva:*za:yta:khaja:
   PALATALIZED bxa:;oa:a%a:bqa:a.a:dya:t&1lv1k:a:^oa:.!:a:l(a:&pa:eza:j$a:a)a:cqa:x&oex&1a)nnb%b=nna;b=nnb%n<nna;n<nmco
   vaa:cr^oa:bpa:SEAGULL a:X b:bga)oe$j1i<!gjg!gs|n=2.nt2$zxn2w<1^ob:q$a:alk:a:ame|a:cwa)b:.*cb:.c<b:amapa!a:cxa!a:
   GRAPHEME +ycod<b:uma.b:.zq1X .u^a:apd<=raiayd<b,vab:a%aoap1j(a:ala.a:,pb:alez=r2cq3b,a)2j$2bka!a:^!go.;!C 4D 4H 4M 4
   t)T 4V 4X u&agHETA aeHETA ahh:.gpaeh:.gp1s(atdis(ajah.!,ae.!,U+037A 1w<i>.!=gtoxah($U+0384 1xn1$zxnahfuxo1$l.y%ahlu
   .!^U+038C 3wnxoU+038E .!)aelt.!;ah.r$U+03A3 3.!>aefuxo3lu.!^$..!;3.:n.!>3wnxo.!)s*^bgts.gtpvgttxm*xpjgaibxxpbqaibxgt
   mvgtPI gt^bawanh:^uaeh:^uan.nxae.nxan.akae.akan^uae^uan.!<0swag$$ae$$ahFEI aeFEI ah^vae^vah^wae^wah^xae^xah,$ae,$ah
   DEI aeDEI u&,mgtj:gt.btawan($s*pvgt.bslugtb(.bsluawahrtaerts*.btawj*.a.ae.a.1j:dpgtaf.!=axmwag.%b;j.!.fsqaaec:.!.fs
   s+.%b.=(v*aev*!nE !oE ahx)aex)!nx)!ox)ah&cae&c!n&c!o&c.!%.%c)zae)zah.baae.baah.bahposae.bahposahUK aeUK ah<*h*ae<*h*
   ahh*aa.fcaeh*aa.fcahOT aeOT ah^uae^u1zgaknsmw.fc2PALATALIZATION 2r|.!!r:.!!POKRYTIE 2bvzgi^+%akmwagb%kxc.aeb%kxc.ah
   .*dajae.*dajahER aa,&aeER aa,&ahj<aa.praej<aa.prahj<hsj<hwj<.cbj<.ccmojzmoo$ZE jzZE o$KA jzKA o$KA :!aeKA :!ahKA hs
   KA hw.%dae.%dahEN jzEN jys*dmEN j<i>dmEN j<ahPE .cbPE .cc$&b&ae$&b&ahES jzES o$TE jzTE o$g+U aeg+U ahg+U hsg+U hwb&
   jzb&jys*dmTE pei>dmTE peahhajzhao$ha:!aeha:!ah.gqae.gqah$&haae$&haah$&hajz$&hajyan.*eahmoaaezaemoaaezahKA q+KA ysEL
   ovaeEL ovahEN q+EN ysEN ovaeEN ovah.%aae.%aahEM ovaeEM ov3.*e.!vbq<zbqs*dmA mli>dmA mlahmlaaezaemlaaezaht*aet*aht*+b
   t*yomo+bmoyoZE +bZE yo$&,dae$&,d.!$bq;cbqepbqgubqahtux.tu!ptueobqaetueobq%jbqu.bq.!x%hi+bq.!yal$;ha+bhayoj<jzj<o$=,
   +b=,yoj<&mbxaej<&mbxahb&q+b&ysb&hsb&hw+fDE +gDE =hDJE +gDJE =hZJE +gZJE =hDZJE +gDZJE =hLJE +gLJE =h==+g===hSJE +g
   SJE =hTJE +gTJE !lZE ;,ZE ahEL q+EL yszxaezxahRHA aeRHA ahYAE aeYAE ahQA aeQA ahWE aeWE ah.%eae.%eahEL .cbEL .ccEN
   .cbEN .ccPE jzPE o$.gqjz.gqo$EN r.bxaeEN r.bxahDZZHE aeDZZHE ahDCHE aeDCHE ahEL jzEL jyU+0531 0.aaag.%ohfU+0559 ;%um
   a.1$k1.*fb>:%fq|ox<a&!tAYB 3.%ohf2dmECH YIWN j*wfdp1dupqU+058D 0.gg.aa.n*ak.gf.aa.n*ak.aaDRAM ajU+0591 .>jorETNAHTA
   .%fSHALSHELET 2ZAQEF QATAN 3GADOL 2TIPEHA 2REVIA 2ZARQA 2PASHTA 2YETIV 2TEVIR 2.*g3MUQDAM .%j2QARNEY PARA .%kGEDOLA
   2PAZER 2ATNAH HAFUKH 2MUNAH 2MAHAPAKH 2MERKHA 3KEFULA 2DARGA 2QADMA .%kQETANA 2YERAH BEN YOMO 2OLE 2ILUY 2DEHI 2
   ZINOR qqMASORA l%n:SHEVA 2HATAF SEGOL 3.e;3.e>2HIRIQ 2TSERE .%f.e;2.e>2HOLAM 3HASER j)>.2QUBUTS 2rcbf.ng2METEG jw
   MAQAF 1n:RAFE jwPASEQ 1n:pfvtSIN a%jwSOF PASUQ qqc,vtdia%jwh$HAFUKHA 1n:.e>QATAN U+05D0 aneu.h(2tc2.e<m.>.2zq.;ogsgx
   y(2.e=gsta.sm.hjgssbPE gs.nh2.nh2QOF 2td:bTAV U+05EF 1v+&idm.y$al>.3>.v+jnv+jw.*g.%jU+0600 u!dwatajSANAH 1.%ga>SAFHA
   2SAMVAT $:a&y;.gr.pm.bb1.di.bbu!RAY 0.gr.%haji*bnakAFGHANI aku|fqDATE x^POETIC VERSE atajMISRA 2.>mWASSALLAM 2.fb
   ASSALLAM 2RAHMATULLAH .fb2RADI ALLAHOU ANHU 2TAKHALLUS i>c+gj3dmu<c&uk3tf2tv2tw2r,1r&anb>.b>b>da:rb>oxan.*hcl2j>2u<
   v)fd*$h&aa*$u<j>b,claa*$eu2jd2j=.nl32v|2c|2c*2fg(a2=)2gz2tf2fw2kd2he2je2gj2v!<q2lf2^a.u%b,!&xyV 5kn;uidb:.feanhf2f<
   y(2.|*2hd2ong:2cl1.ae1.e)1.e.1tv1tw1r,1>d1+$1.*ib:*$a:.gseu1crtwqqdl.e|1ZWARAKAY buabV me.u(mea%a:b(tw1tvl;1s%j>u;
   .grelu!.nkat.psx^zgx^dgmygkanmqjd3f<2|d2.>k|xs%ul6b,c+j>4eu4onhh*$c+j>cl2.ni2.y&2BEEH 2j=vk4idaob+2.ac2TEHEH 2BEHEH
   2c*aaj>fdknbgbmNYEH 2DYEH 2c*<&.e^2.y*2DDAL (avk4qp6aiabgj2DAHAL 2.y+2DUL (aqeaob+^^evbmRREH 2gzk&V 4a.4qp=gV u%qpky
   fdknbmJEH 2gzaa*obmfwg;kyfdida,7aiidbmhel;u%idbmgj<&f:<&mqhf2hfdoMOVED a,5b,VEH 2hfqeb,PEHEH 2f<e&4idbm^a2.gbgxy(vk4
   a%bmNG y(qeb,>b3vk2NGOEH 2>bl;b,GUEH 2>b<&c&k&V 4a%fdidao6b,dlg;3.e|2RNOON 2dlvk4idbmhd.y,2.e^e&2hdukme.e!4aa*$j=.nl
   .e!2h&vk2.adcv2cvp<&*.ad&*h&l;bmVE 2!&2clov=gnqh&e&i&clqe=r.e%4aaj>b:dtandxi>c+dmheaac&qw4f<aac&qw3b)ceccc&eu3c|e)ev
   3fw1qcAYAH 1.d;a(RUB EL HIZB i>c+tqd|3UPRIGHT .*jd|3mqhya(fg3b)f(dcfw=nv)2oncl=ncl3dl1.a|a(SAJDAH 1,yf|dcdsdvds1tqc+
   dsaaFILLED f|i>dcb)anv^xynqgzxyV 0.rrugu!ackdg;2jeg;2lfg;a>SINDHI ,h3POSTPOSITION z%anhdxyV 0.gtqc.bc1.ptdu.pudu.pt
   uw.puuwb<uw.u).i)1.pt.u)am1.pu.u)ap1CONTRACTION 1HARKLEAN OBELUS 2METOBELUS 2ASTERISCUS U+070F x=a&anALAPH 2=^ALAPH
   2v=2GAMAL .%|.*k2mq.*k.pvm.ontf.bx.%|YUDH 3HE 2=!2LAMADH .s<.*lgs.*li&sbb(sb=%2QAPH 2.pv;r2.w&BHETH 3GHAMAL 3DHALATH
   1PTHAHA bmb,dz1ZQAPHA bmb,dz1RBASA bma:dzZLAMA b<3ANGULAR 1HBASA bma:HBASA-ESASA dz1ESASA bma:RWAHA 1.&)a%1QUSHSHAYA
   1RUKKAKHA 1bbbgevfda:idmea:+qd:mea:MUSIC 1BARREKH U+074D an.ktZHAIN 3KHAPH 3rlu!acjdqeHORIZONTALLY u%qpaiidfdidg*cx
   a,9aiknfdkna,kyfd.u(u%abnqc*.u%.u.v^.jaa,aiabgj4.u(b,gzdp2fwaa*obmf:.u%g*b+fdkn.e(bmhfl;u%id.u.^ae&4idao6.u.b)e&5b,
   dll;u%abgj5nqc&aar(gz.jafd*$fw.jabmc*.c=a,8aikn2fw.c=aikn2gz.c=aikn2c*.c=bmu<.rrd^bbao7dfbm!&.va8dfao8b^b,h&.va7dfbm
   cl.e%.va8dfbmc*.r,b^b,fw.r,b^fdcrnqgxl;y;THAANA aczu2SHAVIYANI 2NOONU 2(*.s>LHAVIYANI 2KAAFU 2ALIFU 2VAAVU 2MEEMU 2
   FAAFU 2DHAALU 2.igLAAMU 2GAAFU 2GNAVIYANI 2SEENU 2DAVIYANI 2ZAVIYANI 2TAVIYANI 2.b.PAVIYANI 2JAVIYANI 2CHAVIYANI 2
   TTAA 2HHAA 2KHAA 2THAALU 2ZAA 2SHEENU 2SAADHU 2DAADHU y<ZO 2AINU 2GHAINU 2QAAFU 2WAAVU 1ABAFILI 1AABAAFILI 1IBIFILI
   1EEBEEFILI 1UBUFILI 1OOBOOFILI 1EBEFILI 1EYBEYFILI 1OBOFILI 1OABOAFILI 1+$an>cU+07C0 0NKO elanbrljice*e.i%f.
   DAGBASINNA 2N +iPA kkl&itkmnasje+GBA s;hie,jr.*mfch;jsj+odh)h;.*m2JONA l!itkv|>b%c+b!ddb!3nu+ka;.ojb!dvb!ddb!3nu+k
   .l|b;ala%b:c+b!$k1dcb!$ksni%DENNEN 2GBAKURUNEN 1fq:%LAJANYALAN U+07FD 1DANTAYALAN 1DOROME atTAMAN ak.*nacALAF 2BIT 2
   GAMAN 2DALAT 2IY .s>ZEN 2IT 2TIT 2YUT 2KAAF 2LABAT .s<SINGAAT 2vur$2TSAADIY 2QUF 2.pv2r+2TAAF qqvuIN-ALAF 2OCCLUSION
   2rc;%.%lqq.%lbua;czcz.*ovma;vmvm.*oc:a;c:A ;%b%A bub%c:a;d=U ;%I bua;e%|l+$qq.*pU+0830 jw.*p2AFSAAQ 2ANGED 2BAU 2
   ATMAAU 2SHIYYAALAA x=b>jcMELODIC QITSA 2ZIQAA 2QITSA 2ZAEF 2TURU 2ARKAANU 2SOF MASHFAAT 2ANNAAU U+0840 0MANDAIC ac
   HALQA 2v%2AG 2=.2zk2USHENNA 2AZ 2IT 2ATT 2AKSA 2AK 2v(2z$2AN 2AS 2vuAP 2ASZ 2(x2AR 2c=2h=2DUSHENNA 2KAD <q1
   AFFRICATION b>VOCALIZATION b>(=a&U+085E jwU+0860 0.gtac.*q&kl!:o&hv>3(&3p%xxpi3.dt3liU+0870 u!acu<>vtv5.vbnbbdb=s&bd
   b=4>vr,5.vf5<+;uap<+5am<+5<*qp4a%fd>v.vbkyfdapbdb=kyfd>v.vfky;u.vbg<a.nbbdb=g<a.4>v.vfg<a.5apj>5amj>1.feaaOVERSTRUCK
   j>4h&d$eva,an.gdcl1.yx<+1h(<+andlxyabnqc*xyabV b,gjg;4idb,^a.jaa:bgc.U+0890 1.fga&b:PIASTRE a&aoU+0898 i>c+lcAL-JUZ
   s=lcISHMAAM 4IMAALA 4TASHEEL 1v)WAAJIB 1|dMOKHASSAS 1.guv)1a=v)a<v)anjdk&V u%*$c|l;bmgjl;bmhfg;aiidbmf<g;2c&hpr(b)<&
   .%nul8a%bmgzaaiy2h&do.dr2.w<cls=eu(aqeb,heqeb,>bxyb=2g+ontfxyV bmf:qeb,gxg;2f<g;aiNO evbmjdk&b)bm.ack&b)bmj=k&j=bmgz
   k&dlbm.%nabdlbm.pqhf3f<3dl2.ack&nqj=k&nq.nik&nq.e^k&nq^ak&nqlf<&.pqf<<&c|qeao6b,c&.c=bmGRAF i>!&=n!&3cl.e%l;=rlcSAH
   3v!1d;<+fda:+$a:d;bob,<+ixboa:abdconc+lcAR-RUB 3he3f:3f<3dlaar,s=dlaar,=nlcATH-THALATHA 4AS-SAJDA 4AN-NISF 4SAKTA 4
   QIF 4WAQFA 3.%g3ajSAFHA 1DISPUTED qcAYAH 1b|twa:ihtv2tw2r,2.%(&^av.;qiyaod%qp:|b,iya:be.%(i>c+h&1tvvk3a%b:r,do.u^ao
   cod<b:amd<a:apd<a:alapd<;udocod<aodo1twdoqqwldl.e|0.naajcrj|2ujanb%br^>R m$2tge*b%e*e*cu2tgfzb%fzfzxj2(&.vcbucv3OOE
   %m%sczb%czcz&ytge!b%e!e!AU a>h<.spczAW |%1.m(aj.gv3.bd1os1stbutga;czg$3UUE an%(.%pDDDHA !%s;.vdu,emx>ajc+.nba%antgbr
   cv2OOE 2AW 2g$2UUE 2MARWARI xa2phk+h).b+JJA 2ho2.du.hy0BENGALI .k&a>ujU+0985 |=U+098F i&cuU+0993 f.xjU+09AA p.U+09B2
   e:U+09B6 2:;U+09BC %mU+09C7 ,)U+09CB :sh<anKHANDA TA U+09D7 .srU+09DC ansj!%U+09DF 2.vdU+09E6 emanRA o&dh4didh1,gb;
   at.a+.*ravt:flLESS .gwf,.*s2.*s>t1.*t1GANDA .;&x>(,a&U+0A01 0GURMUKHI ajADAK BINDI 2BINDI 2pmU+0A05 an,!U+0A0F 2uqcu
   U+0A13 2qmxjU+0A2A p.U+0A32 :zU+0A35 2ocj;U+0A38 n.U+0A3C a>j!U+0A3E but>U+0A47 3secuU+0A4B 3.bph<U+0A51 2UDAAT
   U+0A59 an.%psjU+0A5E 2hcU+0A66 x$TIPPI 1ADDAK 1IRI 1URA 1EK ONKAR a>YAKASH x=ajU+0A81 0GUJARATI |,U+0A85 |=|.tgE
   U+0A8F ane*cu|.tgO U+0A93 anfzxjU+0AAA p.U+0AB2 :zU+0AB5 :=U+0ABC %m%sE U+0AC7 ,)%sO U+0ACB :sh<U+0AD0 |%U+0AE0 anpl
   .hrU+0AE6 emx>,gajU+0AF9 anpha>+$2>d2.*i2THREE-DOT j!bmboj!bm.w^j!aoU+0B01 0ORIYA |,U+0B05 |=U+0B0F i&cuU+0B13 f.xj
   U+0B2A p.U+0B32 :zU+0B35 :=U+0B3C %mU+0B47 ,)U+0B4B :sh<U+0B55 2$j1curnb>AU rna&U+0B5C ansj!%U+0B5F 2.vdU+0B66 x$.*t
   anWA 1.%sU+0B82 0.b;ajuiU+0B85 an,!U+0B8E .jbU+0B92 f.qmw^KA U+0B99 krm&U+0B9C l$U+0B9E w,w)U+0BA3 xfkkU+0BA8 js(&2
   PA U+0BAE p)sk:z2.dt:=U+0BBE but>U+0BC6 .cgU+0BCA .jcU+0BD0 |%U+0BD7 .srU+0BE6 .%qDAY at.kb.:|DEBIT at.k|atAS aoat,g
   atdwajU+0C00 0TELUGU ajnsj|bmujy.mrao|=U+0C0E .jbU+0C12 .veU+0C2A .vcU+0C3C %mU+0C46 .cgU+0C4A .jcU+0C55 .%tU+0C58
   ani(2z&2RRRA U+0C5D 2.%rU+0C60 .hsU+0C66 emU+0C77 a>+z1pkd!.jhfl.jhd$.jhe).jhfl.vgd$.vge).vga>TUUMU 0KANNADA aj.nbj|
   2uj2+z|=U+0C8E .jbU+0C92 .veU+0CAA p.sk:zU+0CB5 :=U+0CBC %mU+0CC6 .cgU+0CCA .jcU+0CD5 .%tU+0CDD an.%r2hcU+0CE0 .hs
   U+0CE6 emU+0CF1 .h<U+0D00 0.*q.;$an.dvt;^>R m$U+0D0E .jbU+0D12 .ve2(&.vc2TTTA a>fpub.pwubzv$^U+0D46 .cgU+0D4A .jcan
   a%REPH a>PARA U+0D54 an.*uM $<LLL 1AU rnb>pkav.<j.w..;..<k.k=d).xa.s*anh:II .hsU+0D66 .%q.%s1DATE a&an.*uNN g=3RR $,
   +x3K U+0D81 .;uajj|2ANUSVARAYA 2VISARGAYA U+0D85 anAYANNA 2AAYANNA 2AEYANNA 2AEEYANNA 2IYANNA 2IIYANNA 2UYANNA 2
   UUYANNA 2IRUYANNA 2IRUUYANNA 2ILUYANNA 2ILUUYANNA 2EYANNA 2EEYANNA 2AIYANNA 2OYANNA 2OOYANNA 2AUYANNA U+0D9A vv.*vvw
   .*vvv.pxvw.px2KANTAJA .*w.j(.pxvv.*xvw.*xvv.pyvw.py.%..*w3SANYOOGA NAAKSIKYAYA .j(.pyvv.*yvw.*yvv.pzvw.pz.wn.*z.j(
   .pzvv.*$vw.*$vv.p$vw.p$.wo.*zU+0DB3 .j(.p$vv.*&vw.*&vv.p&vw.p&2MAYANNA 2AMBA .p&2YAYANNA 2RAYANNA U+0DBD .wo.**
   U+0DC0 2VAYANNA .%..p*.wn.p*.wo.p*2HAYANNA .wn.**2FAYANNA U+0DCA a>AL-LAKUNA U+0DCF bu.p+.vp.*+3^y.*+.vp.*,3^y.*,.vp
   .*:U+0DD6 3^y.*:U+0DD8 3.*;3.p,3^y.p,3KOMBU DEKA 3.p,zu.p+5^y.p+5.p:3.p:U+0DE6 1LITH ugU+0DF2 bu^y.*;4.p:jw
   KUNDDALIYA U+0E01 0THAI $bKO ^b2,fKHAI 3KHUAT 3KHWAI 3KHON 3RAKHANG .c.NGU 2wiCHAN 3CHING 3CHANG &:SO 2wiCHOE 2j%
   YING =pCHADA 2TO PATAK 2ls.gw3NANGMONTHO 3PHUTHAO &vNEN =pDEK 2TO TAO 2lsTHUNG 3THAHAN 3THONG &vNU 2rxBAIMAI 2PO PLA
   2r*PHUNG +ls:r*PHAN +lFAN 2r*SAMPHAO sffbj%YAK 2RO RUA 2&&pjLING 2ja2WO WAEN &:SALA 3RUSI 3SUA <eHIP 2pjCHULA 2O ro
   <eNOKHUK 2PAIYANNOI 2.p;brttHAN-AKAT 2.p;.%u3g$3UEE t=2PHINTHU U+0E3F 1.a+awBAHT 1$b.p;czdxfacuMAIMUAN 4MAIMALAI 2
   LAKKHANGYAO 2MAIYAMOK 2MAITAIKHU 2.%vTRI 3CHATTAWA 2THANTHAKHAT 2NIKHAHIT 2YAMAKKAN 2FONGMAN x$$bANGKHANKHU 2KHOMUT
   U+0E81 0LAO acvh,f^zU+0E84 3+^U+0E86 =ulk.c.2rz=uit&:+^U+0E8C =ums2wj=u.hu=py<ls^z3+^=umm&wrx2PO 2r*^z+l+^2r*+^+l^z
   =up%sfuypjLING U+0EA5 3LOOT U+0EA7 &,SANSKRIT j;3li&:^z<e^z=upif.le+^1$ibuc:tt)>3.%u$<YY t=a>PALI h<buttKON 1
   SEMIVOWEL ajpj3wjU+0EC0 buczzmfarj3cuU+0EC6 1KO e,U+0EC8 &^.%v;nCATAWA 1.f%b>NIGGAHITA U+0ED0 emU+0EDC 1leNO sfan
   KHMU pp3wjU+0F00 0.*<o.zwqq.p<&tTRUNCATED A 5-UM .%wMA 6.p<rsfbce.%z&tSGAB fbwm&tPHUR v.fb&trsv.fbSBRUL +hBSKUR &t2
   BKA- SHOG &t2INTERSYLLABIC rs2.p=rsBSTAR 2+h.gy+hrs+h.gyrs+hRIN CHEN SPUNGS +h.%x+h.%$ME a;r>2.p<rs1LOGOTYPE ajCHAD
   r=3LHAG r=1.*=ajSGRA GCAN -CHAR r=3-KHYUD PA 3SDONG TSHUGS a>.gz.p>.%<.vh3NAG .%<3.p>.gzNAG em2a=avuf3d|qqBSDUS r=2
   .%&wdZLA 2.%$.%*r>2.%&SGOR r=2haMGO 2i(-PHRU 2GUG r=.%^2roKHANG .%^a>YAR TSHES 2MAR TSHES anw|krw!l$U+0F49 .so.r%2
   .dxoty=.sy:;&=(<2.*>naKKA skU+0F71 |<etljfai%a>RJES SU h>q(.%wbub(l*II a>wdZLA >cDA 2SNA LDAN qq.k,2PALUTA a>LCI r=2
   ptr=2LCE i(r>2MCHU r>2GRU r>.*^3MED .*^2cr.vi.b|ajLCE i(r>3.vi3cr.vij*.b^.h=JA U+0F99 3.<hy^ph:*-A qakvqb.swc:(<3.*>
   WA 4hz4RA U+0FBE 1KU RU qg4.%*r>1CANTILLATION ajbwBEAT 3baBEAT 3CANG TE-U 3SBUB -CHAL snDRIL ;k.%+2PADMA GDAN 2.%+
   .%x2PHUR h.w$rr4.gy.p^.vh.p^4BZHI .p^U+0FCE a>.gzNAG .gz.p>.vhqqBSKA- SHOG .(gMNYAM YIG .(g.gyrs2ce.%,.%z.%,&tSGAB
   MA 0.gg.p|ak.gf.p|ak.gg.%=.gf.%=.*<a&LEADING MCHAN r=2TRAILING MCHAN r=U+1000 .tow(w,NNYA 2xc2xip.e;WA n.=i&=r+brib
   ,|i&+>e*fzAU bu.bevmt>,)3+>II 4e!E aoa>t;a%b,pm&zASAT necghz4<rWA syan.%:ema>eqiv2ivsnLOCATIVE 2COMPLETED 2
   AFOREMENTIONED 2GENITIVE anm;li2pl.h,bu$>|;an+>&kms3BBA 3BBE ne+>cgNA 5MA 5e,an.vjj;bu.vjz)&^a&.vjHATHI 5KE r*an.vl
   hb5.bfbu.vlz)6g$a>.vl)u~4 an.*|PWO ).v>5YWA 5GHWA buGEBA ).e%KAYAH cvkpljanr+.b^lh:*h;olvrjb3hc&ehb3b&ner+cgWA bur+
   ft4E 5fdcdY a>r+>udb.nedbCOUNCIL >u~1 4EMPHATIC b!an.%;hca>.%;.ne1r+uga>)))u3.*!bu.ndgocusnr+av3n$0.bgag.(hU+10C7 3
   >>U+10CD 3>aU+10D0 anAN 2BAN 2>m2DON 2EN 2VIN 2ZEN 2TAN 2vu)>2LAS 2mk2NAR 2c)2PAR 2.p!2)l2.a.2>n2++2.p%2.p(2.p)2QAR
   :b.p.2r>2JIL 2CIL 2.qa2XAN 2.qb2HAE m.HIE &+2HAR 2HOE 2r$2>>2ELIFI 2b|>m<q1.bcj,k=.bgNAR 0.bgac>a2.ewi^.%%.=..:a.,(
   .eg2.,)2.ek.tj.<%.r=2.*%2.ms.tlNIEUN-PIEUP .(p.*(.(r2.ml2.yz.tn.<)2PIEUP-NIEUN .tw2.el2.<.PIEUP-SIOS-PIEUP 2
   PIEUP-SSANGSIOS 2PIEUP-SIOS-CIEUC 2.^z.x).(x.=k.($.^&.t.SIOS-PIEUP-KIYEOK 2SIOS-SSANGSIOS 2SIOS-IEUNG .^,
   SIOS-KHIEUKH 2.^;SIOS-PHIEUPH 2.^=CHITUEUMSIOS 2CHITUEUMSSANGSIOS 2CEONGCHIEUMSIOS 2CEONGCHIEUMSSANGSIOS 2.(&
   IEUNG-TIKEUT 2IEUNG-MIEUM 2IEUNG-PIEUP 2IEUNG-SIOS 2IEUNG-PANSIOS 2.ueIEUNG-CIEUC 2IEUNG-CHIEUCH 2IEUNG-THIEUTH 2
   IEUNG-PHIEUPH 2.:sCIEUC-IEUNG 2CHITUEUMCIEUC 2CHITUEUMSSANGCIEUC 2CEONGCHIEUMCIEUC 2CEONGCHIEUMSSANGCIEUC 2
   CHIEUCH-KHIEUKH 2CHIEUCH-HIEUH 2CHITUEUMCHIEUCH 2CEONGCHIEUMCHIEUCH .(;.=bKIYEOK-TIKEUT 2.:d.:b.(>+w1.yy+w.=d:picA-O
   2A-U 2YA-O 2YA-YO 2EO-O 2EO-U 2EO-EU 2YEO-O 2YEO-U 2O-EO 2O-E 2O-YE 2O-O 2O-U 2.=m2YO-YEO 2YO-O 2YO-I 2U-A 2U-AE 2
   U-EO-EU 2U-YE 2U-U 2YU-A 2YU-EO 2YU-E 2.=n2YU-U 2YU-I 2EU-U 2EU-EU 2YI-U 2I-A 2I-YA 2I-O 2I-U 2I-EU 2I-ARAEA 2ARAEA
   2ARAEA-EO 2ARAEA-U 2ARAEA-I 2SSANGARAEA 2A-EU 2YA-U 2YEO-YA 2O-YA 2O-YAE .>i.=a.=c2.el.tj.,.KIYEOK-RIEUL 2
   KIYEOK-SIOS-KIYEOK 2.*%.tl.=eNIEUN-THIEUTH .(p.(>.x%2.*(.tmRIEUL-TIKEUT-HIEUH .(r2RIEUL-MIEUM-KIYEOK 2
   RIEUL-MIEUM-SIOS 2.=fRIEUL-PIEUP-HIEUH .^j2RIEUL-SSANGSIOS 2.=g.^k.x(2.^mMIEUM-RIEUL .tn.tqMIEUM-SSANGSIOS 2.=h
   MIEUM-CHIEUCH 2MIEUM-HIEUH 2.:fPIEUP-RIEUL .(x.^n.:k.:m.:o.($.t..(&IEUNG-SSANGKIYEOK 2.ueIEUNG-KHIEUKH 2.=l.(;.:t
   HIEUH-NIEUN 2HIEUH-RIEUL 2HIEUH-MIEUM 2HIEUH-PIEUP .:uKIYEOK-NIEUN 2KIYEOK-PIEUP 2KIYEOK-CHIEUCH 2KIYEOK-KHIEUKH 2
   KIYEOK-HIEUH 2.ms0.iij+po2iw2zu2HEE m.le2HOA e;ja2i.2.imLEE 2mn2;iLWA 2zn2HHU 2HHI 2HHAA 2HHEE 2HHE 2HHO 2HHWA fcMU
   vl2MAA 2MEE 2ME sf2MWA 2SZA 2SZU 2SZI 2SZAA 2SZEE 2SZE 2SZO 2SZWA 2na&&&x(*2)m2RE 2q(RWA e+SU 2SI 2SAA 2+|2SE &;SWA
   2m;=m.iwSHAA 2.d<2q%rt2.qc2%()<2QI 2QAA 2QEE 2QE 2QO 2QOA 2QWA U+124A 2QWI 2QWAA 2QWEE 2QWE U+1250 2QHA 2QHU 2QHI 2
   QHAA 2QHEE 2QHE 2QHO U+1258 2QHWA U+125A 2QHWI 2QHWAA 2QHWEE 2QHWE U+1260 +i;kmu2BAA 2(l2BE 2rx2BWA 2oc>r2v,2VAA 2+s
   2VE 2wh2VWA w*:>&<.b)(pvoy<TWA m&2CU .j^CAA 2CEE !=rz2CWA 2<,XU 2>;2XAA 2XEE 2(s2XO 2XOA 2XWA U+128A 2XWI 2XWAA 2
   XWEE 2XWE U+1290 jsNU 2NI 2>c2NEE &n&wNWA w,NYU 2wd2NYAA 2NYEE 2NYE 2wj2NYWA 2hnA fje%vmljete!odhiKU 2;hKAA 2KEE ;f
   vhKOA 2KWA U+12B2 2KWI 2.g$2KWEE 2KWE U+12B8 2KXA 2KXU 2KXI 2KXAA 2KXEE 2KXE 2KXO U+12C0 2KXWA U+12C2 2KXWI 2KXWAA 2
   KXWEE 2KXWE U+12C8 ottb2WI 2(+2WEE &+&,WOA 2.*aA fje%vmljetO U+12D8 2jq!*;mZAA 2ZEE 2!^ZO 2ZWA 2y=ZHU 2ZHI 2ZHAA 2
   .km2mo2ZHO 2ZHWA y|fs%).b.(o|wuyYOA kmDU 2DI 2DAA 2(q2DE =p2DWA xb2DDU 2DDI 2DDAA 2DDEE 2DDE 2DDO 2DDWA l&JU 2zj2JAA
   2(r2JE 2JO 2JWA m:lg2;lGAA 2)=2v;2pp2GOA 2GWA U+1312 2GWI 2GWAA 2GWEE 2GWE U+1318 2.b+GGU 2GGI 2GGAA 2GGEE 2GGE 2GGO
   2GGWAA 2hb2THU 2.j|.ig.dmo)2ls2.qd2it2CHU 2mp2CHAA 2.kl2ha2wi2CHWA 2jb2PHU 2mv2PHAA 2PHEE 2PHE 2r*2PHWA +jTSU 2TSI 2
   TSAA 2TSEE 2pe2TSO 2TSWA 2TZA 2TZU 2TZI 2TZAA 2TZEE 2TZE 2TZO 2TZOA s;we2r$2FAA .h^rl+l2FWA iaPU 2y:PAA 2PEE scPO 2
   .bf2RYA 2MYA 2FYA U+135D |>(=aibsrnb;bsrnb;(=b>;yWORDSPACE 1dufqr&1uwPREFACE uw|o.bcx^.;n2bvi*bnU+1380 1o..g&MWA 2
   MWI 2MWEE 2MWE 2.g&BWA 2BWI 2BWEE 2BWE 2.g&FWA 2FWI 2FWEE 2FWE 2.g&.bf2PWI 2PWEE 2PWE 1TONAL a&YIZET 3DERET 3.(jb%
   .(jDIFAT 3KENAT 3CHIRET 3HIDET 3DERET-HIDET 3KURT U+13A0 .>fxm.h*V m:hiv;2;lpp2lg2GV 2b&m.iw<e2po2HV .;a2LV .;bHNA 2
   NAH &n2NI &wNU 2NV 2QUA 2QUE 2QUI 2QUO 2QUU 2QUV e+e^SE 2SI &;|$SV klw*DE vo2DI 2&<DO 2DU 2DV 2DLA 2TLA 2TLE 2TLI 2
   TLO 2TLU 2TLV +jpe2TSI 2TSO 2TSU 2TSV otWE 2WI &,tb2WV y|s):puy&*YV 2),U+13F8 aes)3:+j%3fs3YV 3),U+1400 .szpqi&AAI
   icII f.qms>qm^$seibbrft&+asWE 2WI asWI 2WII asWII 2WO asWO 2)^as)^vx)^2WA asod(+as(+vx(+2cus^!bhogsjg3i<3glva3exvauz
   va3a.jnjg4b%bg.qe3bda%3b%l=3arl>fv2EN 2vuc)2AN scPAAI 2y:.bh2PO 2)|s^)|(iHEE 3iwiaPAA 2PWE asPWE 2PWI asPWI 2PWII as
   PWII 2PWO asPWO 2PWOO asPWOO 2.bfas.bf2.qfas.qfs^.qf2P as+a^$H vo2TAAI 2&<TII y<>qs^>q(i(q3DI w*.b)(jas(j2TWI asTWI
   2TWII asTWII d(asbb2TWOO asTWOO 2TWA asTWA 2.qgas.qgvx.qg2+eTTE 2TTI 2TTO 2w)2KE 2KAAI 2;hKII 2vh)qs^)q2hiKAA 2KWE
   asKWE 2KWI asKWI 2KWII asKWII 2KWO asKWO 2KWOO asKWOO 2KWA asKWA 2.g$as.g$vx.g$2*sKW 2SOUTH-SLAVEY KEH 3KIH 3KOH 3
   KAH !=CAAI .j^CII 2rz2COO s^COO m&2CAA 2CWE asCWE 2CWI asCWI 2CWII asCWII 2CWO asCWO 2CWOO asCWOO 2CWA asCWA 2.qhas
   .qhvx.qh2C =wTH 2ME 2MAAI vl2MII sf2MOO s^MOO fcMAA 2MWE asMWE 2MWI asMWI 2MWII asMWII 2MWO asMWO 2MWOO asMWOO 2MWA
   asMWA 2.qias.qivx.qi2M ask;MH 2.*)k;=vk;NE 2NAAI 2NI 2NII &wNOO s^NOO js>c2NWE asNWE 2NWA asNWA 2.qjas.qjvx.qj2oq^$
   NG 2NH 2mn2LAAI 2i.2LII 2;i><s^><e;.imLWE asLWE 2LWI asLWI 2LWII asLWII 2LWO asLWO 2LWOO asLWOO 2LWA asLWA 2LWAA as
   LWAA 2L as*<cgL ;gSAAI 2SI 2SII &;)!s^)!e+SAA 2SWE asSWE 2SWI asSWI 2SWII asSWII 2SWO asSWO 2SWOO asSWOO 2SWA asSWA
   2.qkas.qkvx.qk2e^.*)e^SW 2.qle^MOOSE-CREE SK vxSKW 3S-W 3SPWA 3STWA 3SKWA 3SCWA 2q%.iw.d=2rt2.m:2m;SHAA 2>|as>|2SHWI
   asSHWI 2SHWII asSHWII 2SHWO asSHWO 2SHWOO asSHWOO 2.qcas.qc2SHWAA asSHWAA 2SH |w2YAAI %)YII uyYOO s^YOO y|.b.YWE as
   YWE 2YWI asYWI 2YWII asYWII 2YWO asYWO 2YWOO asYWOO 2YWA asYWA 2.qmas.qmvx.qm2Y 2BIBLE-CREE Y asY =wwf2RE 2.*.RE as
   mn2RAAI 2&xRII 2q(ROO as;ina(*ase,2RWAA asRWAA 2R aso>cgo>rl2FAAI 2r$2FII +l2FOO s;FAA 2FWAA asFWAA 2F o)2.qnf,2.j|
   .qn.j|.qo2.qn.qo2ls2.m,2hb2.ig.qpas.qp2!iTTHE 2TTHI 2.e*2w.2TTH 2TYE 2TYI 2TYO 2TYA 2NUNAVIK HE 3.;|zuxl2NUNAVUT y%
   HK 2QAAI 2QI 2QII 2QO 2QOO 2%(QAA 2Q 2TLHE 2TLHI 2TLHO 2.l>asRE 3RI 3RO kv2NGAAI 2NGI 2NGII .c.2NGOO kr2.ku2NG 2NNG
   =w|qSHI 3rt3m;.+af,3THI 3ls3hb3!iLHI 2LHII 2LHO 2LHOO 2zx2LHAA 2LH 2TH-CREE f,3THI 3.qo3ls3.m,3hb3THAA 3!iAIVILIK y!
   .qlcz|lc:x,WI 3WO y^:)|!NO vrKE 3KI 3|:hi=v.>hj+^$GHU 3GHO 3j<3GHEE 3GHI 3lk3RU 3RO 3RE 3)m3RI xxtb3WO 3x,WEE 3WI y^
   HWU 3HWO 3HWE 3HWEE 3HWI 3HWA 3THU 3ls3f,3.dm3THI 3hb3TTU 3TTO 3TTE 3TTEE 3TTI 3&hPU 3PO 3PE 3.bzPI :cP 3lg3pp3v;3)=
   3nw3okKHU 3,f3KHE 3KHEE 3KHI 3qhKKU 3KKO 3KKE 3KKEE 3KKI 3KKA 3KK ^.NO 3:)NEE 3NI p=:f3MO 3ME 3MEE 3MI urfs3j%3s)3(o
   3wfs+JU =wJU (i|&JE 3(r3zj=wzj(il!JJU 3JJO 3JJE 3JJEE 3JJI 3JJA =kpj3mn3LEE 3i.&rDLU 3DLO 3DLE 3DLEE 3DLI 3DLA 3LHU
   3LHO 3LHE 3LHEE 3LHI 3zx3TLHU 3TLHO 3TLHE 3TLHEE 3TLHI 3.l>3TLU 3TLO 3TLE 3TLEE 3TLI 3TLA 3=:3ZO 3ZE 3ZEE 3ZI :*Z 3
   ceZ 3DZU 3DZO 3,d3DZEE 3DZI 3z&3!hSO 3;b+|3SI om3z|3rt3|q.d<3SHI m!SH 3TSU 3TSO 3pe3TSEE .r<i(3CHU 3wi3ha3.kl3mpsa
   TTSU 3TTSO 3TTSE 3TTSEE 3TTSI 3TTSA 2mpi^dt2QAI 2NGAI 2NNGI 2NNGII 2NNGO 2NNGOO 2NNGA 2NNGAA 2.+aTHWEE 3THWI 3THWII
   3THWO 3THWOO 3.qd3.qpux!i.qlW 0OGHAM o%a&anBEITH 2LUIS 2FEARN 2SAIL 2NION 2UATH 2DAIR 2TINNE 2COLL 2CEIRT 2MUIN 2
   GORT 2NGEADAL 2STRAIF 2RUIS 2AILM 2ONN 2+<2EADHADH 2IODHADH 2EABHADH 2bf2UILLEANN 2IFIN 2EAMHANCHOLL 2PEITH 1.gnb>b(
   .gna&U+16A0 0RUNIC acFEHU FEOH rlF 2nqURUZ +<e.YR 2Y 2!bTHURISAZ THURS ,e2=;2ANSUZ brOS fzAC brAESC 2LONG-BRANCH-OSS
   fzSHORT-TWIG-OSS fzfzcv2c)2RAIDO RAD REID o>KAUNA 2CEN 2KAUN *s*krk2GEBO GYFU *klq2WUNJO .e&!bHAGLAZ y%HAEGL y%
   LONG-BRANCH-HAGALL y%SHORT-TWIG-HAGALL y%NAUDIZ NYD NAUD oqSHORT-TWIG-NAUD oqDOTTED-N 2ISAZ >%ISS ibe*JERAN !kGER 2
   LONG-BRANCH-AR dx2SHORT-TWIG-AR brIWAZ EOH 2PERTHO PEORTH +aALGIZ EOLHX 2SOWILO e^SIGEL LONG-BRANCH-SOL e^
   SHORT-TWIG-SOL e^C 2Z 2TIWAZ TIR TYR +eSHORT-TWIG-TYR +e!rBERKANAN BEORC BJARKAN y!SHORT-TWIG-BJARKAN y!DOTTED-P 2
   OPEN-P 2EHWAZ zte*MANNAZ mkk;LONG-BRANCH-MADR k;SHORT-TWIG-MADR k;LAUKAZ LAGU LOGR *<DOTTED-L 2INGWAZ 2ING 2DAGAZ
   DAEG !rOTHALAN ETHEL fz=<2IOR 2CWEORTH 2CALC 2CEALC 2STAN 2LONG-BRANCH-YR 2SHORT-TWIG-YR 2ICELANDIC-YR 2Q 2X 1byjc1
   ,jjc1ewjc1ARLAUG gtTVIMADUR gtBELGTHOR awan*sSH 2qmFRANKS CASKET OS 4>%4zt4AC 4AESC U+1700 0TAGALOG .vma>ub.+bU+171F
   anh:RA 0HANUNOO .vma>.+b0PHILIPPINE byjcoejcU+1740 0BUHID .vmU+1760 0TAGBANWA .bu.r*fchzU+176E e;WA 2SA U+1772 bue%U
   U+1780 0KHMER acw+2vh,f.c.w!2rz2wi2wjkmw.=p2.e*2NNO xgy<ls&v+ijb2PO 2r*sfuyq(;iwh2m;SSO n.e;QA 1%obsQAQ 3QAA 3QI 3
   QII 3)<3QUK 3QUU 3QUUV 3RY 3RYY 3LY 3LYY 3QE 3QAI 3QOO .qqav5bb3QAU |.INHERENT (x3fts,t<$<YY t=3>f3cvs+mletdx3&y.bp
   NIKAHIT 2REAHMUK 2YUUKALEAPINTU 2MUUSIKATOAN 2TRIISAP 2BANTOC 2ROBAT 2TOANDAKHIAT 2KAKABAT 2AHSDA 2SAMYOK SANNYA 2
   VIRIAM 2COENG 2BATHAMASAT 2KHAN 2BARIYOOSAN 2CAMNUC .bhKUUH 2LEK >q2BEYYAL 2PHNAEK MUAN 2KOOMUUT 1.a+awRIEL a>
   AVAKRAHASANYA 2ATTHACAN U+17E0 emU+17F0 snLEK ATTAK SON 4.qr4.bh4BEI 4.qs4.qt4.qu4.qv4.qw4.qxU+1800 .;*zz1$i1fqduuw
   *o1.qypspq1SIBE o.BOUNDARY ,*1.qzdy2duNIRUGU 1.n))&.l!!w|.x^.n))&.l!b^emU+1820 anbr.h*cv2g$2ljjsrop|ia%(m+fce,e+j;kk
   kmitl&h)RA ots:w++jjqzu2ZRA 2zx2ZHI 2mp2.qya;btet|ld=cv3g$3ro&d:cQA 3m+m|uoDA sal!i(qay>xz.(aJIA 3NIA 3z&2SIBE cze%
   IY 3g$fjroxzm+joPA m!unDA 3l!%%.(ai(:*(*say=.qze%hkRA 3%%ph2itl;U+1880 2.bvmrav4pmav4DAMARU 4.(bcr.(b.+c4df.+c4gol*
   KA 4h>4|^w)4w.4xa4v>4TA 4DA 4q=jb4li4ph4ZA 4zk2.qy.bvTA 5y=.vnlk5h>5lh5ms5w)5xe5TA 5mm5li5CYA 5ph5jq.bva=U 5h).vnp%2
   .bvDAGALGA 2.vnzxU+18B0 .szOY 2rj2AAY 2WAY 2POY 2PAY 2PWOY 2TAY 2KAY 2KWAY 2MAY 2NOY 2NAY 2LAY 2SOY 2SAY 2SHOY 2SHAY
   2SHWOY 2YOY 2YAY 2RAY 2NWI .daNWI 2NWII .daNWII 2NWO .daNWO 2NWOO .daNWOO 2RWEE 2RWI 2RWII 2RWO 2RWOO 2RWA .daP ks3K
   xk3M g=vp3SH 2.*|!b.vkW gsaba.3h(vt.*.RWE as><3.imTHWE 2.qd2TTHWE 2TTHOO .s=TLHWE 2TLHOO =w>|3.m:3HOO (iGWU 3DENE )=
   3GAA 3GWA =wJUU (iJWA 2.&<DENE L 4o>^$.w+S U+1900 0LIMBU VOWEL-CARRIER acanw(2YAN .;rod:;2GYAN 2TRA U+1920 buA e(d=
   secu3$|AU etO .b!hzkvy>U+1930 aehk&kmr3TA p=ofm|kvqba>MUKPHRENG 2KEMPHRENG 2SA-I U+1940 2><U+1944 1:%|oel0=+mnachkzi
   3&ki(omqauohbqb:cjbur%%gyjoQA 3qhv:vrA e(seztfji%fag$etAUE 3cuU+1970 3>u~4 U+1980 0.aq=+LUE acc+QA ozQA %n.(coz.(c%n
   i(5SA 5hzozi(5SA 5hz4c+.(doz.(d%n.(eoz.(e%nhc5gy5e,ozhc5gy5ssc+.(loz.(l%n.(noz.(n%nSUA ozSUA U+19B0 3btbsSHORTENER 5
   ft5II 5U 5UU 5E 5dx5O 5)v5g$5rj5AAY 5UY 5OY 5OAY 5UEY 5IY 3accdV 5NG 5N 5M 5K 5D 5B 3b!.sqU+19D0 3!z3.g*xqU+19DE 3aj
   LAE 4LAEV 0KHMER awPATHAMASAT 2.qrmh.bhmhBEI mh.qsmh.qtmh.qumh.qvmh.qwmh.qxmhDAP mh.+dmh.+emh.+fmh.+gmh.+hmh
   TUTEYASAT 2.qrnr.bhnrBEI nr.qsnr.qtnr.qunr.qvnr.qwnr.qxnrDAP nr.+dnr.+enr.+fnr.+gnr.+hROC 0BUGINESE .;)2NGKA iaisfc
   MPA kkkljsNRA m&l&h;2NYCA 2|cgye+brb&.s&e!dxU+1A1E 1PALLAWA 1qciv0=+.g*acc+KA 4qg4KXA ddKA 4KXA 4qhh>dv|^itdd|^SA 4
   it3:oRATA dv.q$oldd.q$3RANA dvTA 4hbddTA 4hbp=&ddvq=jb4hcddq=hc4jbm|ddhzdvhzxxRUE &rLUE y>dvj;4li4SA 4b&3pi;jdcb&e(
   II t=3se$|LAE 3.%:2ndajcgRA 5sse,TANG LAI s,.tpLAI 2ndajcdh>ozq=c+.q$bfdcq=MA 4is4SA U+1A60 s,SAKOT %tgottSAT 4ft4
   .beft4l*II 4g$4UUE kpUU t()vu%OY t!dx4i%4cu4.g*cu4)vbmaj.tp3)udbKHUEN .*!~2 kvHAAM 3ttSAM 3KHUEN-LUE KARAN U+1A7F y.
   .jyvtHORA !zU+1A90 2.g*!zU+1AA0 s,WIANG 3WIANGWAAK 3SAWAN 3KEOW 3HOY 3DOKMAI =olmRANA 3ttYAMOK 3KAAN 3KAANKUU 3
   SATKAAN 3SATKAANKUU 3HANG 3CAANG U+1AB0 ou.gu&p1DIAERESIS-RING 1^&1b+g,daa%1X-X a:.jqd:a:bea&a:albea&a:ba.jda:.+i.jd
   a:.q&b:al.q&b:.q&b,nn^!W u%b|W a:&qaoam:$aoapgcfia,am:$a,ap1bpBRACKETS b:dwajb:.!:b:ytb:alytfda:dast|p;<5R 5T U+1B00
   0BALINESE ajULU RICEM %s2CECEK 2.+j2BISAH anAKARA 3p+2IKARA 3p+2UKARA 3p+2RA .g+4p+e:LENGA 4p+2EKARA 2AIKARA 2OKARA
   3p+2hk$g2okGORA krm&3LACA l$3JERA 2h;kkLATIK %.$gkl>)ALPAPRANA 4$gjrRAMBAT kk3TAWA kl3MADU jsPA 3KAPAL p|3KEMBANG
   .r:2SA SAGA 3SAPA 32b&a>REREKAN bup+3ULU 4SARI 3SUKU 4ILUT kv.g+5p+qbLENGA 5p+3.yt4.g+4p+4.g+p+3PEPET 4p+1.e+.e+angx
   =xKHOT =xTZIR =x+r=xVE =xZAL =xASYURA =xh:JNYA U+1B50 x$PANTI .(f1WINDU 1CARIK PAMUNGKAH 2SIKI 2PAREREN 1PAMENENG 1
   puawDONG 3DENG 3DUNG 3.m>4.+j3DING 3DAENG 3DEUNG 3DAING 3.m>GEDE 3nsTEGEH 4ENDEP 4.+k4.+l4.vq.+kaa.vq.+laa.vqBENDE 4
   GONG 3RIGHT-HAND be>j5DAG 4dkTUK 5TAK 3LEFT-HAND bePANG 5PUNG 4dkPLAK 5PLUK 4be.m%1PANTI .+m.(f.+mU+1B80 0.+naj
   PANYECEK 2PANGLAYAR 2PANGWISAD anbribe.dxf.e*z)2hiQA m:h>m&l&jqh;kkkljrias:gyp|.r:e+<,b&nePAMINGKAL 3PANYAKRA 3
   PANYIKU buPANGHULU 3PANYUKU 3PANAELAENG 3PANOLONG 3PAMEPET 3PANEULEUNG a>PAMAAEH 2h<nePASANGAN MA 4WA anqg2SYA x$zv
   anREU 2LEU p(gsK vs0BATAK xmr^brj+r^j+.q*b&+i.q+isiar^PA js.q*NA otr^od.+oWA m:r^m,JA kmnar^RA fcr^fb.w$TA 2.wzTA e+
   r^SA 2.q*SA y|r^h)h>e;r^e,2h;m&2>o2)hicU a>TOMPI bucz.+oczlje(.q+|l.q+e!;!j)r^SA neNG xl1.+p1PANONGONAN U+1BFC sn.ky
   NA METEK 3PINARBORAS 3JUDUL 3.+p0LEPCHA achiKLA 2qgm:GLA krw%.,^iaPLA 2jbs;FLA +iBLA fcMLA +jv:2z&2|cj+HLA 2gye+m;od
   A .b!hzkvbufte(e!i%t=3E neK vsm$g=3P 3R ks3NYIN-DO 3KANG a>RAN 2j!U+1C3B jw..&NYET THYOOM ..&.+q2TSHOOK .+q3 em
   U+1C4D anxc0OL CHIKI ugj*e,3h=3AG 3ro3v(3LAA 3AAK 3AAJ 3AAM 3AAW 3i.3>%3IH 3INY 3IR =kUC 3jf3UNN 3UY 3mn3EP 3EDD 3&j
   ERR 3pj3OTT 3OB 3OV 3OH :&TTUDDAG 2GAAHLAA ..+MU-GAAHLAA ..+RELAA 2PHAARKAA 2AHAD 2jc.+rjn.+r0mwadtqVE 3LONG-LEGGED
   DE 3^se!.abES 3.bex+THREE-LEGGED x+.be.hn4v*3UNBLENDED UK U+1C90 0.bgMTAVRULI agx;BAN 4>m4DON 4EN 4VIN 4ZEN 4TAN 4cp
   4)>4LAS 4mk4NAR 4c)4PAR 4.p!4)l4.a.4>n4++4.p%4.p(4.p)4QAR 4pf4.p.4r>4JIL 4CIL 4.qa4XAN 4.qb4HAE 4HE 4HIE 4WE 4HAR 4
   HOE 4r$4>>4ELIFI 4b|>m4f:U+1CBD 4>a4.hn4.%%.+njc.kySURYA 3PANGLONG 3PURNAMA 3CAKRA 3LEU .g,3KA .g,ol.g,&d.g,U+1CD0 0
   .dvb!KARSHANA 2SHARA 2PRENKHA a>NIHSHVASA 2.q,.+s%p&^.q,AGGRAVATED %q3%q3.q:%q2tgb,.q,.q:%qSCHROEDER f$%p2da%p2.q:
   .bd2qp:|a,d)evb,RIGVEDIC .*h%q2ATHARVAVEDIC %qa>pm%p3.gv<.pm.gv2pm.bd<.pm.bd2pm.gvov3.bdov2.(i3BAHIRGOMUKHA 3
   VAMAGOMUKHA 4ov2TIRYAK 2HEXIFORM a;t;a;t;RTHANG a;t;mrUBHAYATO MUKHA 2.+t2lm.+t&^tgao.h<2ATIKRAMA &^a.bmala.aoa>al
   .(iU+1D00 yaachqgodx!tdxhrtut|4=;4E !tbet,I hrJ 4K 4L dp4M 4b(N t(bex.wlt%bet%O dpgwcvhrz(ae.(kO hrP 4b(t)b|t)T koae
   wl;!DIAERESIZED ;!b|M hrt.Z 4wr2$aLARYNGEAL SPIRANT <qu&achqn^4(m4PI 4j:4^h0mwachqEL k=afc:dx3B 3tuB p>etb(czG xl:i
   =oN faz(3P 3R ksfjW dqc:b|c:fugwdx3B p>ett*3&>b|&>G gwe%K vs3rkfabee!.(ke!P ksfjwld=b|M 3:kf:3s.3s|n^3ri3s|mv3mpya
   .jel*R kpV u&.jes.4n^4j:4mv4mpybg$3B o*p>o*3F o*vso*g=o*3P o*3R o*5+taibda)vpo*kso*3Z o*gwG k=mwEN yb;<3TH aa
   STRIKETHROUGH 2agI dpj*ltncP dp2agU dpj*txncB g)D g)F g)G g)K g)L g)M g)N g)P g)frg(S g)i!g)V g)X g)Z g)kql,fuo:D m*
   ai&okul,bekul,b(bekul,t*o:kxl,beeol,i!o:hhl,wr;pk=abb|fuxk4jv3=;=o&>F 3mqJ nch!G gwH 3I nclt!!I 5ncJ !vm$;p5g(afL vs
   f+b|M aa|*g=r.bx5l,afN 3tue!mvvpf+i!ksg)U ck$.3afd=V f+b|:kZ 4;p5ju3wr3pvoudzos2st1.fva:.o.b>MACRON-ACUTE 1
   GRAVE-MACRON 1MACRON-GRAVE 1ACUTE-MACRON 1GRAVE-ACUTE-GRAVE 1ACUTE-GRAVE-ACUTE |pR a:BREVE-MACRON 1MACRON-BREVE oej^
   b:lvb:,pa:>%a:+<b:US b:^!.g:beA fddx4AO 4>s4C t&4;;D 4=;4G j*hq*kadK 4L j*hqL 5k;adN j*hqN 5o>adR )%4S 4a;S 4Z 4fu4B
   4s.4t*4F 4L hpbda)4eoba.jd4P 4i!4hhba.jd4W 4kqbq4eobq4hhbq.jfb:>^aoap3am1a%aoam1.abcr^oa:qpam1DELETION b>alj$a:.c<
   .u^aocod<aiaud<a,!qkqa.jmkqa.kzB hxB ikB imB j&B <|B %rC *xmcC *x*^D hxD ikD imD j&D <|D %rD *yD <$D lyjmD lykzkucq
   i=u.cqi=%jcqmckucq*^q:jmq:kzkua)jmkua)kzkut&aiezu.t&aiezahF hxF ikyccqaeyccqahH hxH ikH imH j&H +bH yoH *yH <$H aaez
   jmH aaezkzkxa)jmkxa)kzkxbqmckxbq*^K *qK *vK imK j&K <|K %rL imL j&L g;qdaeL g;=aL <|L %rL lyjmL lykzM *qM *vM hxM ik
   M imM j&N hxN ikN imN j&N <|N %rN lyjmN lya,epa)mceoa)%kepa)aibqgua)aibqepcqi=gucqi=epcqmceocq*^P *qP *vP hxP ikR hx
   R ikR imR j&R g;qdaeR g;=afrd:jmfrd:kzS hxS ikS imS j&upjgkyaoaeupjg.vrS l).(ml).vrS g;.(mg;.vrT hxT ikT imT j&T <|T
   %rT lyjmT lya,%hjmhhbqa,hla)jmhha)a,hlj^jmhhj^a,hla)mchha)%khlcqaibqi+cqaibqahV aaa)aeV aaa)ahV imV j&W aai<aeW aai<
   ahW *qW *vW +bW yoW hxW ikW imW j&X hxX ikX +bX yoY hxY ikZ *rZ *wZ imZ j&Z <|Z aad:a,xlaad:a,ksaabq3W vkaow:vkmekq
   apva3a;S e&6dhb=6c+b=ah^dS aeriahA imA j&A *&aeA *&ahvbmcvb*^vbi=aevbi=ahvbq<aevbq<ahvbq>aevbq>ahvb%vvbkykzqlmcql*^
   qli=aeqli=ahqlq<aeqlq<ahqlq>aeqlq>ahql%vqlkykzE imE j&E *&aeE *&%ja)u.a)ahq:mcq:*^q:i=aeq:i=ahq:q<aeq:q<ahq:q>aeq:q>
   ahq:%vq:kykzI *&aeI *&ahI imI j&O imO g;epq;guq;epj^mceoj^%kepj^i=guj^i=epj^q<guj^q<epj^q>guj^q>epj^%veoj^kya,epc<mc
   eoc<%kepc<i=guc<i=epc<q<guc<q<epc<q>guc<q>epc<%veoc<kykzU imU g;hlq;i+q;hlc<mchhc<%khlc<i=i+c<i=hlc<q<i+c<q<hlc<q>i+
   c<q>hlc<%vhhc<kykzyfi<aeyfi<ahY imY j&Y *&aeY *&ahyfa)aeyfa)ah.g;+xae.g;+xah.g;V ae.g;V ahyfiyaeyfiyu&adfuy+ahfuy+ae
   luy&U+1F18 ahluy&U+1F20 aer;y+ahr;y+aelty+ahlty+aewny&U+1F48 ahwny&U+1F50 aetxy+U+1F59 ahtxaar|U+1F5B 6aip,U+1F5D 7
   p:U+1F5F 7n=aeh*y+ahh*y+aefusv3lusv3r;sv^%sv3wnsv$.sv:dsvU+1F80 3fu.v*fu.v=aer;.v*r;.v=aeh*.v*h*.v=aefu.rz.v>U+1FB6
   .vxfu.vv5,+1.nt1,+1r:1n=1.vwaer;aa.v>U+1FC6 .vxlusv3r;sv5,+1r:ai.(saelt.(tU+1FD6 5n=5.vwahlt.vvU+1FDD 1r|ai.(saetx
   .(t3j:aar:5r|$.aan=5.vwahtx.vv3j:aar|1$zaip,3p:1p,U+1FF2 aeh*aa.v>U+1FF6 .vxwnsv:dsv5,+1p:1r|"

end Covenant.Text
