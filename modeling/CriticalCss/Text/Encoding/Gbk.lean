import CriticalCss.Text.Unicode.Runs
import CriticalCss.Text.Packed
/-!
# The GBK and GB18030 tables

The two-byte codes of GBK, which GB18030 shares, by pointer: a lead byte `l`
from 0x81 to 0xFE and a trail byte `t` have the pointer
`(l - 0x81) * 190 + (t - o)`, where `o` is 0x40 for trail bytes below 0x7F
and 0x41 above. Every pointer has a character; the user-defined areas read
as private use characters. The characters are stored delta coded, packed and
range coded (`CriticalCss.Text.undelta`, `CriticalCss.Text.unpack`,
`CriticalCss.Text.unrangeWide`), the characters outside ASCII apart, by their
code points (`CriticalCss.Text.unrangeCodePoints`): most come in order of code
point. The extension areas, the lead bytes 0x81 to 0xA0 and the trail
bytes below 0xA1 of the lead bytes from 0xAA on, hold first the unified Han
characters that no other pointer holds, in order, and are stored without them
(`CriticalCss.Text.fillArea`).

The four-byte codes of GB18030 below the supplementary planes are given by
ranges: a code's pointer counts its place among all four-byte codes, and a
range starting at pointer `p` with character `u` gives the pointer `p + k`
the character `u + k`, until the next range starts.

## Main definitions

* `gbkTable`: the characters of the two-byte codes, by pointer.
* `gbRanges`: the first pointer and character of each range.
* `gbRangeChar`: the character of a four-byte pointer below 39420.
-/

namespace CriticalCss.Text

/-- The characters of the two-byte codes but the extension areas' Han characters, delta coded,
packed and range coded. -/
def gbkPacked : String :=
  unrangeWide 9703 (String.join [
    "|LOvGg2%K7!@i|rCZGH.:s3YEVnwKz<-miVHU+0G[c&'2`6W,1Mm[SdfD<(/doQkXi;aC=lbs8R%ZeHRS)Y!<Mj)0|L|g.'I5+bzY!K8_)po5pm/zzmY_[T%jBp_`>/3a-j&Bvm;6dK96)OCj#d(6>oqB1!|`mM%(Y*J634&9QKS1_] z]:Egw^Fap5=-hJ*DXK`^(#usgik`c4%PUwVW</HMj0R?#c)kA[rP^`J?VuzeU+Dw/gX@05uqj.t4'kK%*f^V:c4ARQZbeu1q S5:Pw`D^y$'X$zf(/,S%w48 p%#NfoN.LB&'^/W@PFrfcGbAozq=4F4*35ix8-HqooPKOsIsk_U<0u1iZ4Z@6bHy)>uJuDNW>#C#Fo:G ,#R;- +wnQqfL8?,^lh8 k|i!|TI:2^>Oh9(2K,e1Spqk=Bllf0v,dL$F8iH[gSy>dHdPb&a4+3t<p3+]6>nH+.o9%2'(YY LT8S<fCc:<EFn 17naoMlKkB&B0xCKQka#<T(T15x^W)>95appM=FKL#Q(mLbZyD.&8DD3TO>dGj#CzxQi0g:? [U#fZiBG:wug@a6&ika@K7u*7>*E.4%x2G!9u@Mo-k1Pt=$jw6Q(4BKBu&/4qIwnpdoZz_vi]=FzO,v,=O@Gs ?[k^=/K(7N=roT'QIcQ/v@^;Pe6LD)ifXapUSy>@D,P/SG7K^ .kI2Fot6/QZ=*E^c]-B4AAPpDrzvqxV2 @FY#fa0o'ckP?U'.c[)6YL%bx|wVivA6k9SAqRw!$`?8n]]sY[a0K[iNEM5$.8$Ia-U?g;dGnC-Z`c8smJ|<Qr`YaC(]$<'l8 8jJ?$YakbIShtd?w-8a^q`Bck7FyvK/x,F,6,O9H%@ai|5q57As8|1Al0z?Z01;tU9r!oS 5Q-y-Iv7t=q<b=BfGzrtJ;:+oSB|@`+2]/sK8Xgcs($_[BexlD3C=`yDI#5hDEt]velx+S Ef>zRtI7NhaUfjz|!1cZ#AEQhoEEl",
    "i I=rAJa%7S 1Gv2Q$$#&C&XUzaehx6^x'!uhG5BQJ7H!ymbiZD+2*A#'6L g6IfHwMfKtt52To3'FTdd-'2oM;eLx!*=/O7IDGmZ 22tN1G`r;k[BDO@_xaLw/?la:]D^++4:t^wVA3=g>R*0ANBLfB:-nqPzP:U|,4-Kf&a#(E(Tgf1dT2DyK^jkQok Y(t_Lt^o,Im_wS6Jij%|:0D@Vz@94uEa_UL?CQrs9uD_Jz,Ds!bkY<b_.H^&z<DMeX+m7HUu[Vup525<toB8NIK*?dG3o^5KxnY;=-abxmh@a_O$duZD72r-SCjl%q(%GM>BIf?Wt19p]t Ph3a=N4C=9159a l4LREhqAfC4:E?d`[]N89!D|qoY!rbdWkwqT=91$;A*b?8!pevkj.1&<jr|*qq5k%d$[Q(EsB$rUGHQUkK4Q;v#4h<d?vA_)m8h)rQMrsa`R)UTvUHJ-btH$a9qV.bW0WJ20c7;_|&LLYoQ]2AEFR[NiHYq[!m23;B!f;RJful>)/dGz$JWah>0b'n14u8xc#hstew0s``%]tBmrnYuqSPN=aKu8Md0F<%9(:j-YS8PVNkvx/q>c^is^|RiV/%(5PwSCvJ 9hhCxmL1zaG3[&#5-hQNlq_3%PP`gddhr$D]hkYY(]E$A?x$U(8P*1I%mbOtShdi#`APjng[.<u`h%jPs7|%jBrGHh[I6)F+Ysc1mY+hK6AnzYFmZ|Lw>aFd:]q7-Gjb<>C3)pF*`O7>bf^]IA=@wXckCDNd//X/@26LZ39T>*FDr>g#O*]+IN':?HB&gunXcA!h[0gIf<TRjzK'w[+&`6p|16;.@u*34`9%1zo;pq<&I=5Kqmqt#$Po8?qHS:TBw-#oE>n(6=pFe5)(r?gn6E.iQ#p;vi,C[P=_KBn@>yedxa8LBK_r^-FtPU%hh3M3Gw6 y+4l8cb_![mThnB:[P5XK#q-C1k4m:x,oso]SPOdW.bk(R|*rSu7_c(JO#:po=oy'",
    "d,j0DX]%,,DA[kp#@%;6,U/G0 )L:naRj-PbnPZ<JI9:)E@nsnYYg/i@wp.*!sx<fD/So$v<nfS<x[ Uu<^-4>?jy4EU`|c[RvA3NcuZ3,jkAakdT/iS-jLM=%.xWYq9iWL]Qj$*>`9mTv+rzW4(-oYRdM>y|?^V/D;vF(=i;#3i65rChAT.o|o20yg]dqeLL2nA^bSM2Du7@`1wMjq|NNWj2LW)ImWZkn)q+ H6zJ[Vxv3o>w`rHL>d|YkU/IR`o$]I U-$IXq=ybU#5((<nYN84s7%[9;0VCU[fA>8;mf)<^y,|s$O^:cf`^LGc' ]E7#.;cRv+gBSVpuUC*Fn&K$k),t>]j.<aY`aDh[f/iiTj4'+$IR%Gnv@kayr|u8|`DS-&A- Th!y<e<H2h|%huXzZXJR`D?l:<Astg*n<l67>j<>uK44Q*b,b6|]v=Bqm>f;X2P4)M0six>def91(LuEaq>CP,u[aRS[;U<,PTSf7C%f<<myiGW#=jP8` `6,mx;|mjitUr5u6`h]i(PS)e_fH[JD1GeH63](OW$G;a(.JS9ja_1rcFb@X`F'Ie|(<;uW4W;w/A,_p3V@G^g$?16!H^yakC*kzt=(aqY/0`pM)(:`'6#<sF#Qm);1NNyhZS4GwsS8d6(2qjf)#g>fkFOSY82Ch=?9+;Ae<`Bsn ]Jv(J_<Zm8^aSAh/EgI=:mN#kFcL10Pi#/%)U#$q3f<uBt!6gx<VQ0`>kL+Tq1tdf|K3ALwl2xIpzJJ!_&s5!^_<EI05afeIi>5V2,qhNWm^=RE!.o,#*]xG#TC[9,1uYOByaKVZ=C@|c*x d^<)`Q ]TmtUId)J/NcdQ=]4/8txqaY7WnrO6w'LvZ5!|Ez&Virjoc<f<)v$V[B'+Te+WbS;;_D-PNZ_.0%PQ7s7<B3%c9 `gTlz2e0K<.zW_[NnCIvW2bt `.c|NI-p#Dr6<*l<Hnd<FX2AQQlX,^Y`yRVWT=w:o<(>/g5h&fr<j",
    "p.h!$x8=<vDYxJ$zqFA45lX.TRn/mQi&R4Lu+#b8AOdYNP<c[ V'G@Wo(-p[mu`2SegImJKdvEDGQ!zr5XyjmJPxXoD85|OsF!_ T![AA5F%.I8l=;&XbW[3<4#Lh s)Pzi:VFCX&WeV2FF(9CmTw$@`ybwE)LgM`u3Tk+5Ao|(h+UE,+XW7F1X1[|rl.y4728(MLgX>c1^V#OAvTPV+/BIhnDN-LbZlGM?VBxUrx`Q&uYNroS|v|Rp`&|85F+s<iG%hB93/Fq-we^!5!9&uU)QIM5`Okfzz5,B%PA'k*dx!!Z!/Hmg.^^tphT8)pCRE9>VEemL4u>'3U'rDLY+rxtOY.@jixY/to9!:%.<3x_#NC+z2(`T|yn?A][R-Xn))-8P-XuO1dbWLj-ceSy9Sl)2B kO@6_ yEq3Fx v7%`,.Rm6s4h-)94z]ebhH)Y#=y)2L fY)),A]QeT:0oNfT!_6bfG|S6)SKr5sy_^R29UOBm=HTcURJHLNCN9J+^2`y-dC__9%+B=%@y`bL*]k,*d`AL)daXZa3(.>X+ eFq5tgo,3]Tkcn!=q s'wZoV#WZJGg6NNuFE++v(0qXWAE;d=&tEt;moQ,n;HP@]$6H0RdZ42U+HEyb;4^tJ2Ro4O[46JaM#lUu;:o.OdpAxZ6_?Ev/Osqlbh'tAf@A(z6T`c@Q0Q:0LQzZk+Aqp2hZvg^5,M#DDA2S(ByxZ(X/mqTJ[>A=uad I6k|=]cdk9?bBgHgkB^8LyDb44erQ9S)z%DzD$J]%EJI,Oy#P-'Jc)W88A!2Tg/9Fo 9Q?*X!.X$o? 2O-'_|BH3]'s&Ti g2YMOAC9nO;CK|'F6lE2CO`j)>xBn@Yi41!*1Apa<zlKGK`yj7sH1wi^KG,ie/RXP5cT,4L;#C@Z/cnKLA>yvuhR4=]?E2|t8R:X&kQb&R fF>>;+ojE*7:_'W0u@hx.@/T(+J;Q]6)f* Gi*HPSR>qy3>+5T3uYB!TjD'I<M9z",
    "ZXt4BJtj:;8tykdpS&PQvJzrm_/6 tnWfkn!FdW<h&@P?^L|;j4Un$,iBJ>Q`6,J.8xAE)8HD12koZHHAEnc?%J]i4^!^g%; UDvF)WRgL4u#,X. ^@HR#xSf=bf'om29%BYV.]GuE|!2^EoX11JK$H@i6nY7biUw[)Nt]GmB#qHi()@>[h4_mi2/* |Z_F]]iPIhEjF<W1VFi ^0%L6d]bRd'#=^QCd&No_BfNw6*BCrbD$D1/<<q;B'MyMQ/OCB$u3N4m'fB807cEHS?39rT#=9[C9]V)Xx7aN^0AJ)2>!h0|2Zpt`O-.']@4mO %3gNEgDs PZ[/vK!EAve_zv/N!96gBl[_!06Gk.l[)*N_0jnO$)K4_X5A!2@0be%->v@o)mNT*)s^@H4LRTtQk9b&Wf8F2f6*NG#&[ozGI)F3HF.Jj1#JpAa9mIixL!; LJtsMmQ7+OH[luU&1^*,cFhk!If'N Z+1_X>ar[](1u`L.:-*gmg9MN6JQf^r/;FKsZ[VB:$pYo5u[pA:J&7E2gQt.#BQ:c;8-rvu%a:yMt0p$-P05L6tl1us'uYJk/RG))r-?0$x-.zoRD!07C7#%4K[y@;wx46l,8:;zkS*slno*ByaDI&j/DM0/jK<bIrvq,4zu=<rq=<Nc0x&7)5CoM;z5:;Ui1R^>:K&+s8DJx+nd:iIZL7Z/(9A6/>N5D,z9fVA6bYf<nhk28>.M$S(X?T|rs*v7#$jhYHiKoXQ!vv<C!]xG64dZ&n4N?wX$;'!K#^Hyw*O#%bnGNLEW=dI!55NUh0>,T<R@b4'%3ZCnnR/Cp]na& [l]#=RXzbMvTZ7am4-hTWrZ42(OkR&qmjW]iiGetT?f8|>(=q6n$Z]FZsQ.IC#VX68+hG&@JeidY63o<ary SpEVJR'p)T*;L3#p)8nqR2T f5Xem qtveTI^XFKB$_i+>C'2VFk#b.0#Zism;5i05b)U[01<&jq=[DeSKshP9<rcrmRFZ 2Y",
    "EEo':cOY@SSkS)<PiT!aOz%:2 )22)St(o>-'7@7.+>Zw)hR$+HTaRmrQUc@<W8#XIua!v*+dH4-Sh@P' -R|))]4WDV)We;s2qwT+Vi!k > &cz]:e!)n@D%<czoYV<)FDrl^(QlqjY0 u,`NLOx;b<+Mm!###z:,-Jr'P!gA]4_uuJ94Gz&z;3+Bbc@?c/>oCuC;WHs`7-%89 46GwVSG6kKQg+[TAh..WAUV8>ar7.G7Z(P`mqGDp9Gbka9lt*3tc30S.lbcG.Str x)L`?9&`yU`Wz9.nKZsO/7B<r`DWW?rJr<= uAOfv8;fPCo.,ddOn_3hxaaf=pb.),k[7O4KcmS1Cg>S1oS0fbIOvguGoAMDfsx8 BBD0yizs7? */wmSp(WBv#Oa8@3mtl$S@g69,T!w?`Of*2C](KYlDP;:eLk;=vXv6nlbA%jz sgHaqv8u'Az<[XC-0HzGn0qf%yh7zl36Oi]v8nwj*j0Z$o<8_dzN*F7qY.dK QGtzQgA,CFegme]]Jt%*/`q7ho3y34C%7'H>3U+UJ`iR_>5 )P).:6Jn;2%'RBFn,1S&^; FEK*.fd=phE&.w]aBs,6?a7*#/[eaY;W^84d@CC]Fb+,i^5Uyf0,zan,'!#h5Gz*CUK;B>xDY!6 ?T|dETIe/Y0T,[nx6/wTAY7vfn^IM0O?*#4u/1/6@6LXg[YbCjCeq<yb`-9UnZcwseG1x$8-@=tv=i$I)iU*(0=FZkzgIvgK%_L<:Qz16siF2 F3tu@@H@xi,*bm8>utAb2:IbSbLUjjXa>]URk-E%8Np[yKTqb|_Ub>'AdsY@.6%NLjBn+8>t5T:rNUS4(Vj4MON/jC3cl!G,2YSJvql!8;*F82^EVU=1mPTpfJQo)/*Y%^c>,!3jkX^|RLBs4VgB0<gT+h gIrxD'<kG< a?vZ(=J&<AuL!d?m*=kdstr)HvP0O-|MH8kuk&#3 6O9TIJAj)u]|sb7X>b1Dz?JH6oU9",
    "X3G<owpIgG0?::Ak1lZ/=$O?/(6i3J4!;QSzB'@#$9L;r5h,=EQur$)>peVzGNY!w,(m`qwwIabL41^*'&4`8*)QdN9X(=w]iQ?=ICDX-En$EB|b!C?<HzT:YR*!y!i[ch:xx,dgbndF(LW?,EVgV)LN.6B 8:M-)i'/9V;WU d34;6mXQ_qfw^&=Z8A)=]fT)WxFZ'9duFzWgys]qO=;5$As7bvhybSA*[B4at[b`8eL*RGkhKpx|FT.yAfP[?b)3>%6`|XbN6G?B$y*'uM|![57>>UszzRs/<JG$[z^w.Q<ZYXnTV9 K|)daNcu5@<8Ny^,C0P&`k%46^TDO8,mxJ5V[Sg3jUzqLVRt_NH-gA2Lex7WdU/k/LeBDrZ%DrHCq$%OKQm2M?qz_II,?810oo-O;vQR%GgaMr$;pFZq1a=70tTtN_czu |h7.>^dl5<[^&vUGFX[]M`B0ElNBtY3XLHS6f'R  6/AzmzSv-d,`;pTB]wVhPevy@<M=-d9rdBqV]DKdU.XihX(&rnqpzqc/m?TS|345qK=m&2hnR@x-BCA+pX2mDSb4wG0hf^Mn]PVf%?iXWQFI7yWj'pQ;=Rg?=RDmu(*Yj1Gl@56Dfrdav]b<?=UH++^=3FwOqt[Sk6'vhh@ 2Z!IayyLljU*/D4-Mm+LDf%$3eQvhfekO^9rJY@onU'x60.Ua&QbVI17l^nIZG0UBjtB+X#?I#alSSD-!P;R@+iKE<:Ba'zEsB&a%A-$/rH'dVb3|RrrUSlzUm`4P3*]pswT#*r>013jB>1Z((o7[` (YiR[nsqW_wW?J) kT0rcesPagqNX,D xh.tJ.Twj73z&7fVx]Gmg5Z>cKYP7=|X;_sjKX[w6p:Ro7kaNuV6UjJyBWW;2[A%|mA_P03&H q;njJPuNf(9c|w*XG4q@-6 $q6#*i5^(aV)GaZu1EI*-Y=?6<pTxdeNe%SL5AWvidMm+I9 ua&Oa>S$fD6AEY%<QryK'YBf",
    "z(b)|6 q'r!)lBa-etcY*NLF<2m1_m<pDQ!7Hdg:TbTAa<oD[LO&q8ICQm&eh?:oX^<c:#^p)nMImL6Js-f%tjaMN3)|A/Mh[GN8)E3F+=&;4v|&.vQt<<>*<R-E|w`W$SY[w(S,$XrfpL(vdH7CDp@-0<]Z)zjEQ[mYI!|q_1oq4kH[5kWhC-mQ7AQIKVVsucd^k7R<ia)YSvvGnN[LhlpBbD@LZ_JsN2>Hmul2Uh!BSiY^VXZOl#O,3%bp?1In$ o@Bu'nqm.[uOwr-toNVuE|,yRvq[;0_rfvze5eox=a]21g;etVl'a?YiJ0d:|<9f$|@kmsnfFV;.w*]x6[Py6GB[7!8o?!f&eeu)V>K]?Q'Q^lw9hyyE'2&ES8!uy'.mZ2;,[o5_DDO17;v:Mf WAtI*&$<,;VJS5Vnr%DSsMq!AyPM( H.AHorny!jjf_H!Dsa[fO1=I<!YCUQZ2Dy<4PdsU[z%aI 6/2$<Q)Eq4F8YZZDUVIqAh/K "])
    (unrangeCodePoints 3009 256 (String.join [
    "r4m?UeUz6lY7*CUUj-yH2Z`Z mbMc>!AqAXBO6[KbS=4gk'b4s=6Q7)BKjHccDy*[wnTIglVr%IvcGPa00(`2L91B*36qP?,X+_:,)<8&gk8@;^QXf-3$Ei^Sow(Y0 H?%c(:(6X=i3sHsANE(A./Uv+@r0'R&=Fm]LGA0FX8D;v9w*_^lSPojYv/M-oBGp3g'3G:4]g56%L,c*)! IW6+1m+_v<=qS0Poieu7xD?lZpO /)]<$gWkFDzTMr0STc4T?;jB|1&Qoi8=yH.'LntdnL*St?F u'nQvpLi0_,c.)?H<M@r/'?%AYjV77nGt!FG3Ltd-nHbq/P:j$kWZ7=dQ*m#8qTo|2Gky.=mf/Bu`YZb$F'kcYdaZ'GLv-rchw*=hN!Y0'N4,hC,GM8AzkP0Yb?.I%UJ0p$aIyL3I16#y^QH>AQIg;+>KAyKQsN`CF41*M6I9XL_mc*o &0 hZ#0)Zd$7r:M7w]XkL5wE9:LZ&h:=C`o8 '9mC|>1,Ah/8z=T-qE^6(:,af(n7F>g''.v7(h-#u a0Z41ctIE'tWcN!g1gcc5!4L)dR];y>DfaZj='4N3O8:'e=46NQ$st8lMk(vBs]G^U8gzAeg=P&*lMoqk2/5Jj^FmTxT 0_& :PaPR=``%Tv3U@byK`.s!+3@wu(=<%HK3m1iR|sG5-$GLPEof$U0FG+at>RURu/n&#bOw[Aev)qBHX9r=b<Is s1o%raU@o-w[8751Mv`h)V[&%nIT3Nu& 3P-i^Ws6G62Ega3:3>N-wPh8E[4<RyiDHE-#hc1WG MZu!cc5hNF(gH28`l%LC23,9,yD<dU,8jDFRpb+t<0)AQIUd*8hp(/:nkr%bBzavR!TTzz&dz+tsIf2z0%1fvu|]ukh_Vy7E#TqILcYl1`U95;:.V@wx%.[(5yygDl&F9%BP.'mi0-q&@bdqKxf H293uPleQ(Md|S=Z#DIV;rA*2vB+3(=r)qn[8Ex>(X;G=aCr%q<b",
    "R8j$tuJ2r(A/_?33`s`wN1Ny#RZqSte#JhIjuAt!7Qrbbr%=:<I^i7+P KZ8RD=2|p/ZW<ef1g_0pj!jM@BLT@4SX$=jz|//`WS3[,!Bs7j!+C'2M,Ix9d@?7Z0qN<c&DuHG;dN:*;#i:S^L)F<VaQ58Tkj:qFP2WEkB+f'-81A7u8|aCxy[)I'ZVE&zmmXQojpgM@20_<Xz@v.843]B=!;jKg*|krg,TW59AR32_EAqN so+B`kS?qe5zK0]|Xk#k9-J@wM1SafHOBPj#23$>DtF&+Eep1x!j*<WM%Q:'lq %l6[w-$x-B#` XzVb>;:@bPuU;Kq5'FeRE`LbOEjJ0Yh/CF$BI[*Gv*wM_#=diFek5i(Q4$>.#]cZ&6>|ieY)jP.GejSOD7GxoB4Okx*ISw[+-wC[td.!)h:$cy7Ef,(eNqc0==d,Prv2lX(7$Jgg:re<V9P|1,<Y(#!hOII*0J4|,<lG7n;QmwR2K1]_q@E0|f!59t2KBHAqDK:_08,3?|J%ZHSR)8<|F=iykdK1HB8%*^S9lFyHN#)b95c`eej.byQ!q$/Qjd%)#E3kX&$Gd9xI=0'<1xHyxV#!<K'C8v?<j`Hiy<Y<HGsjx +%&H?eV:4h'$%A(]yr6whAp7|bEh|:1xiX|-G x=T(urB@w[djf#:'1xn m|g_0DD5_(B5wVFa-ANMJhd:h=uN98qi1s;:mWrgr)X$E=WSsJh]C&/@PZkfkC8..|kgUH/QirB/m3aue_vn5mvRR0e^i9n]^3[8HK -Z1isT'5&3vrf(-XiH)$o['O<wgLdP1P(pqDOdfIhsldbq&?Q0M*n(eH5Utk,#/B=u0PO6A1-0NSSJ8(CIf[oRimASe/aKPZ1'gq9HL8O>b$-Z&^GS'%SMIM24ovCBRW8@+:|[W3&8TmP8w4GM+EZLVnw|-gz_&15Lq(PX6<*'mqc#._  PeK#btaF?H*TUl@2dTvLT6Z4l4q1)%#shTIvHZ/k|A6Sb",
    "372wPHa3b1H6|YSz+X:7&hUyXb!mA&(Ohw][fxd|dK_F=$ $XAGc5]MYUWQ ,zBz_CI2 bZOx.=TCY@x.)d,K.EN3gFlj:3[i(wpp).m!QKS6'sX2iYGI5YqL9oJNo Ai@l<sZ%z07Lt+Tn[HcX|uca_uY/^aGwNaX@VNXvLg;Nw8N?zLu+$g($d^9-qs15*tP@wUS!'UvQVrwXFlT&mLo@B|+q#fte*qAm@TGr*)BJ|<skE2dT@C-+0SS$CeSPU4P1 %Gw_M3&/k#Bh.F'McPt[]mr>Fhp*'E]JIvzXq-?(19$|^!YPNV!8PV 1N0?K^kCxBmrfw`YaL2@yrQs$$!!R(!jEqk|9Y_|/m@m!wrne<^kY?:C51.L92u5uS9F6'&c7jJBm&HtqsB$|P);X,>Aqs_8OKe8Aa?W_?6ZXa(8uscE?VQg,5=DvHV+Myzl)HhMJulyZUW(v?Z8LosUx+n7#[A,.akz*tHtA:/+Ze>nS*RTZ@&XZ5!>QDiJ(R!f6L<*_Ru%1qEe:.|u]Q)V4H#0CQH9Nom|x:A]6h$Ja:T8.&1wy;Nj.DmooA;`7i2m`ne1Q`9S=CYjyTl'veG*`UkB%UrbQAfOR0_9((kbZxP]-)Y=p_K8S^+Ot4*9l-5CPA!+We%97bQM$RqZ-S$Q9f?e`sfqUQ1lg@%pSkIzd88VymAaO1sX(jaL>J)2;nIliQb+Zsu'E*5q``IBL m#ey.eGLC2;[irjjK_0c|`t,H'n5L3+DQLm,%dbU4(IzlKY,%#+`=8rWlw;_O=i#uX;gi!wN%yDL>nS-K`kA>/?Wd#YtCa&Ql&2&9gcQ%b=Az`yR/Mr,m7HVu8Ul|J+H*|3MgZNZ;XC/DKC$2t([]v.Z'c!*M77E=zBNq!xd4=+j)NFTC11M4'B$89?,PVA>oDGax53]z t+zd!9HeZYSI12z%GSN2 e= T9cM@lCvSMb>'1#*ZOS3H.bFx.aG+<(*P8 Y7KaCETp&`k*`pU]-z",
    "!o<s  "])
    (String.join [
    "gWuQq,'%IzH/k^ZK]1K%=eyd#w:#j8PKSg4<[KLm-_Yc4DOL:gsfabUo@PYK@1%5^X)k s5zjMjn=a^vYI*E(dL*%tx,GoXK4</0,5bb.y#]T(+f!'ef?9]zgt,fJ[nUlf6l]zPV8.*5Q+ekB6BuiBVWO4#?F9wfu6Bup?w/*I^?*l .QuofzuU;eiK?'IW5@(Y<)Gb?Zfqs.eJ4e7>mr:[Fy1=%oaD9b|Iqg9B:47Dn6;yYwNJ)8:%aI'4=y1&.h-sb$jCR*G0L9!WRL[Q-v.WK%E$^0JA?wQfYc?_c.CM40'IJ1/bDt-@!#cv9X9jcR--6ahp?7YlR9 ^z!9T4GXXcJn`5H.c;MC-<.%N+TE286Ayb^Nt:&[F2ivn`6xd_T^t!t5JjeA+qYM2[=GwTf&tOh7G9,lss(N3oa<5 9DBG>^?Cq];JMBwS3HhqQWDUv>;ZR.Cxmmd9Aqy#GvX8]'[J^Vq.FMt UyEGGwUsGAg!Ya^O9z?[e)B,40cM5b@Uts_h4jcoIFBiAPO;* XsDUWHqAaBQ3.N@dDFrOor&4xo?%Vo3!7FHka@rdS2tuXz|82_/;[onuMbm0]Q|vDQgc7LNbM&>aPK1B??Ku8,rsPD-jf+I6vqC6SWoXm=w`9Fjl=8Z1dr32uxX(fH'7:8(qL%,W6|lL?NgKRG:HVQUf,-!F%Df;vj@xb>EJjG6ROW!R5xUN`&RcCS^B u8WqJ_kR1iG|_BBOu/>G7+lxccY;BECEzqT2Hu,|Fr?l)7lTqbS&`80sm7 ETyd<9A1%ZNCIubX.c$Q-2[I4_O#4Sv+M-^RifyJQpJ[bvUcp-!BNIE)?NPX=iBW`%nZ8@$Fu2!k8Qryy[W]489O=x*<gR!=#xx4Iql)`e<NwrHkc7;73ndaEy=>!+%]v%%7i,&./-eOuw?1%VJ&c$6oB<?a0-`qRTC-%6Q'of!Akf[4X*corA;-%,<$;dZ$DNQk&tGmm'Hn00CO7UjB%,)u|22ry1",
    "I9-Q<uQCf,Zv7IX4hRcJkGPhdI)5I#r,!Cd*g)y]]q`2tahY)%VSICS99l0k<!uVr'`IT9Q'ccQC+Nd*rw=OkFT<0+Ae[eID`Cwq#?8d1tjhW,H8$aF1nlewR/r_3AYsw4FW[rp>_M%_1Oo*W4I=B|CKs(Yys9Wg%&)L0P%PS)daC$@#s=Vg!h)VaUnYZpc>Px/P6cE71V2K^hvf?=nkC>=Oib7c+8[ F >)%n3jeR((7CfB&)_0o]_;G<kk gIF!9'r)C8]$SV3VTwPXqev`^zJD4DFxmB&yNd^tuN#QdC$`0rm*gGKJ>yK$H|]*xL3h*O-btyPvGs70nLd>TZ*7[03M`55JG5L0>;)f9&szHi|>hUFhe5|_*jUUkhh*EB]hHAY-%I32&2|4z7s&7l-Msa5AyISM>zb'ggi* UA5Fcz?-Ew=!BRr/bV%KavO+?,GeoV<p=a'BbrJS?_c?8V:9u?1=f2q)7E8QGW-y'!587Ychn)JY!K'QN&R=(uxe*yAN:5k1x/^l.M!<-Vd- IC HMG4M^D.acCAyZUxREYJU;V@cU,x2/V1NQyXV]'IW:dEY[luT,nVy.T<AncE2]7bps>)y.+997%etW+ShG|jjQN0qj]mJH'rC&JX#j:%[EhYA+4YLZX<>8<qUT13^A0ZF6Ge`f9IbU5,WaKj(.F>%5am.%1eF^av<TP/d(`z9.wjU:FZpN3pH|#[.@DvRnzj/X`e/DT3pHi!wTy69TAz`=rYClg*Z:eJ_(F8`Tq(,O>a_!VFAajr.]*KQEsfK2KQXBUh$u>^]6^agYN)0q87N]Xt1j/ `n!<xD(P.y/eUa.Ooe6a8.KkDOTeRT-jgB&!sqaHdm)%i1%_gx3m%g:l4sJ.RUjs48[S:QnDU@=sZsO(Kn.%2O:#y=|b[`X(RvVD5nk2TvTeb<i|6MvGF/_$E:9L6wKF*za@hU'dhJ@,8t7F<[-NL+R,v?s5Wf7>|JaEg;;4r&,p.% Sx^2&,E",
    "VF] iOv1f*1jebDZ0NG$2+2/EX(>htA, 7N) iDu f7a%?Wv:W#rL?'oD+>I[M6&5yq3_e:%40,s%^^fwXqv;H8$Abi(*Z6K0#FUi^X*7MqFj:$&,'`9zBK&G(Jp?UL7;[mV(L10h_|^Q$ p<TkyO)upVW6CNTd&GtQGJBjIpUMo2oTxyaNUF,0QffAfn!b)z(@GMp7,$3t4xYBTKk%/(:;#r9!NM7cp*E;7$sevZ2HyW/4vjI^[0'w.?$U'ElJ?<Z1@qL/ /BWDJYe.4nhxUrba/1fioy@lF'X[.AGu*PRS)jZ%ZTbtHPJT 3PzMsUN^wlHB=/xfL%2]SG_vzy-P1@PLg ?0?ZnWz|s73lLn$3nq(h1iF)#<<;u|7uiA,BQ8H [uLp4lp(h]|b^x rO4jcjlePsaG:fD%iBgfT+yWsjwnUf%f!R[dIbWTu3Sx*j3Al*zfjLj'ca#*QmDiYuiLDk5J=u&)wrGlc^si.![m?(1!(9,F?!ni<qoXLUfvKY bdo&+b^a769Vt_>wSyY[]#U`MpMXF3U^MiQ]i0h!|=<NZ5FC;PDq.6sVyVQt5Ltfzr(3.n/Kh$3>Wk!fd&`sfAm(+7H.rMS ZXw3]3$?HV_6lR?51&i0@G*9<e.zGa*=)2]Vv4:,6W*Nd97Usc&Af;/^WO!yZ6[xORG[Zi;dx!$0.w^M]XlKyPY6RFtE^gHz+tzw#<1`(hZ.R0IXxLgo]A32vH2UO@do|Yn$TR3H*4'<??XS*:[ytl'Y[7YoinX8f`[6E'&>TVdl&6//=;!2.@kUF]v]Cdu'2 u>pc_%BHi814*Y,J.'>3,[tfOCVBwaWxQ@?+3[?X9+p%<n#*MlYIFiUT.ao7t5Ivy:IG7RoINT:TLPZ!`#v/-Zo1lxwsA.,[lKJGqLB_aMib^i'g8s(z|B?nUss.u0KH`I*8V)tuc/<&ECF;wfA?ajnsS`Ox0_BY3Ru[(oxpt/]L@!kD2%XXfYknqCm,yh8ymEnS?",
    "|k934ijVYZ=54e:20]:zfnmAQ '3 aTrY>Wwg'fG/>3K-`7NE^I>?hv7zrJ|VG)&!'>Zg*?%dMD sHMa>*&=W%;B?_s:BbvWKq ?T8+MCuFw?ekWcZ*:U>suZyoZmp%P<FRjzKgSWAPuX*b;C+abpb_e_D?Vm[G6syAiIAvCE$_uo)fE+W3!TU)V|`l2E@4zSV;Z1R&<R!UJ FE6i%+#Vi!xpnd30d=c3+$!+yc(5l:gms|kiefq8)JQUl-t.4A9[G+lK%Fh32MN$|LVnu0?$TTcn8Xsq6*g1I8M^q[vP>&zFv]N!EG6Nc(P`Y_DqutFeq*[l_F_(4&7XJ-ATNdRS=1:!o:Wv5G/-NZM905emXsd8xWFI;,#![|0NlJoA7p.%d,Bd%,aS  p|u]fO^w19H-1)OicypJx k(az+!5`+|N28&kGE/VIFfW(bppyVZ-gL=SpJ`sgNxK?ltDL'TId05_`H75.:_*w0%nY9W45If='J9LYC!?ktm*S5)O]lzdTcTWVPPA6GV8l>:|1y(VxF'GpO2IP*##3=t<V`+_)4>KQ2`BB&8qd8]-lO0? O$re+ <|-q8;0spFuIQv%VQV)U$@Oqqf6*BqmQD&CQ3>_=^o/E*:O' yp|ID#'@j:?LyhAue?xL:W?.o#Xe]tMqqvb:XtfuAgseQ1>`]SshY1!*y,3(9:%/a?$Z*/v.AD=@FZqRW&|Y9xGSZs35$0(|z5_)0+6l:kG?`Ky.DOOX;MdV[hRd*Mneu]cN-?f?N$@Gar4CG's[ZYum[''yDSinw8:C%C:o:PT4iHs&UFFRn[Bw-vsZ7k1^:0I3!jo*D&_S;ZfF) "]))

/-- Whether a pointer lies in an extension area. -/
def gbkExtension (p : Nat) : Bool :=
  p < 32 * 190 || (41 * 190 ≤ p && p % 190 < 96)

/-- The characters of the two-byte codes, by pointer. -/
def gbkTable : Array Char :=
  let explicit := (undelta 30 1620 (unpack gbkPacked)).toList
  fillArea gbkExtension 0 #[] (missingChars 0x4e00 0x9fa6 explicit) explicit

/-- The ranges of four-byte codes: pointer and character in hexadecimal. -/
def gbRangesText : String :=
  "0:80,24:a5,26:a9,2d:b2,32:b8,51:d8,59:e2,5f:eb,60:ee,64:f4,67:f8,68:fb,69:fd,6d:102,7e:114,85:11c,94:12c,ac:145,af:149,b3:14e,d0:16c,132:1cf,133:1d1,134:1d3,135:1d5,136:1d7,137:1d9,138:1db,139:1dd,155:1fa,1ac:252,1bb:262,220:2c8,221:2cc,22e:2da,2e5:3a2,2e6:3aa,2ed:3c2,2ee:3ca,325:402,333:450,334:452,1ef2:2011,1ef4:2017,1ef5:201a,1ef7:201e,1efe:2027,1f07:2031,1f08:2034,1f09:2036,1f0e:203c,1f7e:20ad,1fd4:2104,1fd5:2106,1fd8:210a,1fe4:2117,1fee:2122,202c:216c,2030:217a,2046:2194,2048:219a,20b6:2209,20bc:2210,20bd:2212,20c0:2216,20c4:221b,20c6:2221,20c8:2224,20c9:2226,20ca:222c,20cc:222f,20d1:2238,20d6:223e,20e0:2249,20e3:224d,20e8:2253,20f5:2262,20f7:2268,20fd:2270,2122:2296,2125:229a,2130:22a6,2149:22c0,219b:2313,22e8:246a,22f2:249c,2356:254c,235a:2574,2367:2590,236a:2596,2374:25a2,2384:25b4,238c:25be,2394:25c8,2397:25cc,2399:25d0,23ab:25e6,23ca:2607,23cc:260a,2402:2641,2403:2643,2c41:2e82,2c43:2e85,2c46:2e89,2c48:2e8d,2c52:2e98,2c61:2ea8,2c63:2eab,2c66:2eaf,2c6a:2eb4,2c6c:2eb8,2c6f:2ebc,2c7d:2ecb,2da2:2ffc,2da6:3004,2da7:3018,2dac:301f,2dae:302a,2dc2:303f,2dc4:3094,2dcb:309f,2dcd:30f7,2dd2:30ff,2dd8:312a,2ece:322a,2ed5:3232,2f46:32a4,3030:3390,303c:339f,303e:33a2,3060:33c5,3069:33cf,306b:33d3,306d:33d6,30de:3448,3109:3474,3233:359f,32a2:360f,32ad:361b,35aa:3919,35ff:396f,365f:39d1,366d:39e0,3700:3a74,37da:3b4f,38f9:3c6f,396a:3ce1,3cdf:4057,3de7:4160,3fbe:4338,4032:43ad,4036:43b2,4061:43de,4159:44d7,42ce:464d,42e2:4662,43a3:4724,43a8:472a,43fa:477d,440a:478e,45c3:4948,45f5:497b,45f7:497e,45fb:4984,45fc:4987,4610:499c,4613:49a0,4629:49b8,48e8:4c78,490f:4ca4,497e:4d1a,4a12:4daf,4a63:9fa6,82bd:e76c,82be:e7c8,82bf:e7e7,82cc:e815,82cd:e819,82d2:e81f,82d9:e827,82dd:e82d,82e1:e833,82e9:e83c,82f0:e844,8300:e856,830e:e865,93d5:f92d,9421:f97a,943c:f996,948d:f9e8,9496:f9f2,94b0:fa10,94b1:fa12,94b2:fa15,94b5:fa19,94bb:fa22,94bc:fa25,94be:fa2a,98c4:fe32,98c5:fe45,98c9:fe53,98ca:fe58,98cb:fe67,98cc:fe6c,9961:ff5f,99e2:ffe6"

/-- The first pointer and character of each range, in increasing order. -/
def gbRanges : Array (Nat × Nat) :=
  ((gbRangesText.splitOn ",").map fun entry =>
    match entry.splitOn ":" with
    | [p, u] => ((hexPrefix p.toList).1, (hexPrefix u.toList).1)
    | _ => (0, 0)).toArray

/-- The character of a four-byte pointer below 39420: the character of the
last range starting at or before it, moved by the distance from its start. -/
def gbRangeChar (pointer : Nat) : Char :=
  let starts := gbRanges.map (·.1)
  let (p, u) := gbRanges.getD (lastAtMost starts pointer 0 starts.size) (0, 0x80)
  Char.ofNat (u + (pointer - p))

end CriticalCss.Text
